/-!
# Pieces of a text

A text is cut at every occurrence of a separator (`split`) and put together
again (`join`).

* `join_split`: nothing but the separators is lost.
* `split_append_cons`: a separator between two texts leaves the pieces of both.
* `join_append_cons`: what is put together around one of the pieces.
-/

namespace SlackCourier.Text

/-- The pieces of a text between separators; there is always one. -/
def split (separator : Char) : List Char → List (List Char)
  | [] => [[]]
  | c :: rest =>
    match split separator rest with
    | [] => [[c]]
    | piece :: others =>
      if c = separator then [] :: piece :: others else (c :: piece) :: others

/-- The pieces with a separator between any two of them. -/
def join (separator : Char) : List (List Char) → List Char
  | [] => []
  | [piece] => piece
  | piece :: pieces => piece ++ separator :: join separator pieces

/-- There is always a piece. -/
theorem split_ne_nil (separator : Char) (text : List Char) : split separator text ≠ [] := by
  cases text with
  | nil => simp [split]
  | cons c rest =>
    rw [split]
    split
    · simp
    · split <;> simp

theorem join_cons_cons (separator c : Char) (piece : List Char) (others : List (List Char)) :
    join separator ((c :: piece) :: others) = c :: join separator (piece :: others) := by
  cases others <;> simp [join]

theorem join_split (separator : Char) (text : List Char) :
    join separator (split separator text) = text := by
  induction text with
  | nil => rfl
  | cons c rest ih =>
    rw [split]
    split
    · next h => exact absurd h (split_ne_nil separator rest)
    · next piece others h =>
      rw [h] at ih
      split
      · next hc => simp [join, ih, hc]
      · rw [join_cons_cons, ih]

/-- Around a piece, every other one has a separator on the side of that piece. -/
theorem join_append_cons (separator : Char) (before : List (List Char)) (piece : List Char)
    (after : List (List Char)) :
    join separator (before ++ piece :: after) =
      before.flatMap (· ++ [separator]) ++ (piece ++ after.flatMap (separator :: ·)) := by
  induction before with
  | nil =>
    rw [List.nil_append, List.flatMap_nil, List.nil_append]
    induction after generalizing piece with
    | nil => rw [join, List.flatMap_nil, List.append_nil]
    | cons next after ih =>
      rw [join, ih, List.flatMap_cons, List.cons_append]
      exact List.cons_ne_nil next after
  | cons first before ih =>
    rw [List.cons_append, join, ih, List.flatMap_cons, List.append_assoc, List.append_assoc]
    · rfl
    · exact List.append_ne_nil_of_right_ne_nil before (List.cons_ne_nil piece after)

/-- A text without separators is its only piece. -/
theorem split_of_not_mem {separator : Char} {text : List Char} (h : separator ∉ text) :
    split separator text = [text] := by
  induction text with
  | nil => rfl
  | cons c rest ih =>
    rw [List.mem_cons, not_or] at h
    rw [split, ih h.2]
    exact if_neg (Ne.symm h.1)

/-- A separator between two texts leaves the pieces of both. -/
theorem split_append_cons (separator : Char) (text rest : List Char) :
    split separator (text ++ separator :: rest) = split separator text ++ split separator rest := by
  induction text with
  | nil =>
    rw [List.nil_append, split, split]
    cases h : split separator rest with
    | nil => exact absurd h (split_ne_nil separator rest)
    | cons piece others => exact if_pos rfl
  | cons c text ih =>
    rw [List.cons_append, split, ih, split]
    cases h : split separator text with
    | nil => exact absurd h (split_ne_nil separator text)
    | cons piece others =>
      rw [List.cons_append]
      dsimp only
      split <;> rfl

/-- No piece holds a separator. -/
theorem not_mem_of_mem_split {separator : Char} {text piece : List Char}
    (h : piece ∈ split separator text) : separator ∉ piece := by
  induction text generalizing piece with
  | nil =>
    rw [List.mem_singleton.mp h]
    exact List.not_mem_nil
  | cons c rest ih =>
    rw [split] at h
    split at h
    · next hn => exact absurd hn (split_ne_nil separator rest)
    · next first others hf =>
      rw [hf] at ih
      split at h
      · obtain rfl | h := List.mem_cons.mp h
        · exact List.not_mem_nil
        · exact ih h
      · next hc =>
        obtain rfl | h := List.mem_cons.mp h
        · rw [List.mem_cons, not_or]
          exact ⟨Ne.symm hc, ih List.mem_cons_self⟩
        · exact ih (List.mem_cons_of_mem first h)

end SlackCourier.Text
