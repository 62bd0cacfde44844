/-!
Cutting a list at a separator, and putting the pieces together again.
-/

namespace CorpusTally

variable {α : Type} [DecidableEq α]

def pushPiece (separator item : α) (pieces : List (List α)) : List (List α) :=
  if item = separator then [] :: pieces
  else match pieces with
    | [] => [[item]]
    | first :: rest => (item :: first) :: rest

/-- The pieces between separators; never none, as a list without a separator is one piece. -/
def split (separator : α) (items : List α) : List (List α) :=
  items.foldr (pushPiece separator) [[]]

def joinPieces (separator : α) (pieces : List (List α)) : List α :=
  (pieces.intersperse [separator]).flatten

theorem split_cons (separator item : α) (items : List α) :
    split separator (item :: items) = pushPiece separator item (split separator items) := rfl

theorem split_ne_nil (separator : α) (items : List α) : split separator items ≠ [] := by
  cases items with
  | nil => simp [split]
  | cons item rest => simp only [split_cons, pushPiece]; split <;> (try split) <;> simp

theorem joinPieces_pushPiece (separator item : α) {pieces : List (List α)} (nonempty : pieces ≠ []) :
    joinPieces separator (pushPiece separator item pieces) = item :: joinPieces separator pieces := by
  cases pieces with
  | nil => contradiction
  | cons first rest =>
    simp only [pushPiece]
    split
    · next same => simp [joinPieces, same]
    · cases rest <;> simp [joinPieces]

theorem joinPieces_split (separator : α) (items : List α) :
    joinPieces separator (split separator items) = items := by
  induction items with
  | nil => simp [split, joinPieces]
  | cons item rest ih =>
    rw [split_cons, joinPieces_pushPiece separator item (split_ne_nil separator rest), ih]

def lines (text : String) : List String := (split '\n' text.toList).map String.ofList

def joinLines (pieces : List String) : String :=
  String.ofList (joinPieces '\n' (pieces.map String.toList))

end CorpusTally
