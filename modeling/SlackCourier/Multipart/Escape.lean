/-!
# Names in part headers

The names in the header of a part stand between quotes. A quote in a name would
end it and a line break would end the header line, so they are written as a
percent sign and their code in hexadecimal. The percent sign itself is written
as it is, so a name that already holds such a code is not told apart from the
name with the character (`unescape`).
-/

namespace SlackCourier.Multipart

/-- Puts a text in the place of every occurrence of a character. -/
def substitute (c : Char) (substituted : List Char) (text : List Char) : List Char :=
  text.flatMap fun d => if d = c then substituted else [d]

/-- A character is in the result if it was put there, or was there and was not
    replaced. -/
theorem mem_substitute {c d : Char} {substituted text : List Char} :
    d ∈ substitute c substituted text ↔ (c ∈ text ∧ d ∈ substituted) ∨ (d ∈ text ∧ d ≠ c) := by
  rw [substitute, List.mem_flatMap]
  constructor
  · rintro ⟨e, he, hd⟩
    split at hd
    · next hec => exact .inl ⟨hec ▸ he, hd⟩
    · next hec =>
      obtain rfl := List.mem_singleton.1 hd
      exact .inr ⟨he, hec⟩
  · rintro (⟨hc, hd⟩ | ⟨hd, hne⟩)
    · exact ⟨c, hc, by rwa [if_pos rfl]⟩
    · exact ⟨d, hd, by rw [if_neg hne]; exact List.mem_singleton_self d⟩

/-- A name as it stands between quotes: the quotes, the carriage returns and
    the line feeds of the name are substituted one after the other. -/
def escape (name : String) : String :=
  String.ofList <|
    substitute '\n' ['%', '0', 'A'] <|
      substitute '\r' ['%', '0', 'D'] <|
        substitute '"' ['%', '2', '2'] name.toList

/-- An escaped name ends neither its quotes nor its line. -/
theorem not_mem_escape {c : Char} (hc : c = '"' ∨ c = '\r' ∨ c = '\n') (name : String) :
    c ∉ (escape name).toList := by
  rw [escape, String.toList_ofList]
  rcases hc with rfl | rfl | rfl <;> simp [mem_substitute]

/-- The characters of a name that was escaped, read from left to right. -/
def unescapeChars : List Char → List Char
  | '%' :: '2' :: '2' :: rest => '"' :: unescapeChars rest
  | '%' :: '0' :: 'D' :: rest => '\r' :: unescapeChars rest
  | '%' :: '0' :: 'A' :: rest => '\n' :: unescapeChars rest
  | c :: rest => c :: unescapeChars rest
  | [] => []

/-- A name with the three codes read as the characters that they stand for. -/
def unescape (name : String) : String :=
  String.ofList (unescapeChars name.toList)

end SlackCourier.Multipart
