import CorpusTally.FileTree

/-!
What a run finds around it: a tree of files and the home directory. Configurations are in `.config` there,
unless another directory is set for them.
-/

namespace CorpusTally

structure Home where
  directory : Path
  config? : Option Path := none

namespace Home

instance : Coe Path Home := ⟨fun directory => { directory }⟩

def configDirectory (h : Home) (accepts : Path → Bool) : Path :=
  (h.config?.filter accepts).getD (h.directory.join (.ofString ".config"))

end Home

structure Surroundings where
  tree : FileTree
  home : Home

namespace Surroundings

def configDirectory (s : Surroundings) : Path := s.home.configDirectory Path.isAbsolute

/-- Git takes any directory that is set, also one that is not absolute. -/
def gitDirectory (s : Surroundings) : Path :=
  (s.home.configDirectory fun p => !p.bytes.isEmpty).join (.ofString "git")

def configFile (s : Surroundings) (name : String) : Path := s.configDirectory.join (.ofString name)

def gitFile (s : Surroundings) (name : String) : Path := s.gitDirectory.join (.ofString name)

end Surroundings

end CorpusTally
