/-!
# Pieces of a text

Host names, paths and forms are cut into pieces at their separators. There is always a piece, and there may
be empty ones.
-/

namespace Reindex.Url

/-- Cut at every character that satisfies `sep`. -/
def cutAt (sep : Char → Bool) : List Char → List (List Char)
  | [] => [[]]
  | c :: rest =>
    match cutAt sep rest with
    | [] => [[c]]
    | first :: more => if sep c then [] :: first :: more else (c :: first) :: more

variable {sep : Char → Bool} {c : Char} {piece rest : List Char} {pieces : List (List Char)}

theorem cutAt_ne_nil (sep : Char → Bool) (cs : List Char) : cutAt sep cs ≠ [] := by
  cases cs with
  | nil => simp [cutAt]
  | cons c rest =>
    simp only [cutAt]
    split
    · simp
    · split <;> simp

theorem cutAt_cons_of_pos (h : sep c = true) (rest : List Char) :
    cutAt sep (c :: rest) = [] :: cutAt sep rest := by
  obtain ⟨first, more, hrest⟩ := List.exists_cons_of_ne_nil (cutAt_ne_nil sep rest)
  simp [cutAt, hrest, h]

theorem cutAt_cons_of_neg (h : sep c = false) (hrest : cutAt sep rest = piece :: pieces) :
    cutAt sep (c :: rest) = (c :: piece) :: pieces := by
  simp [cutAt, hrest, h]

end Reindex.Url
