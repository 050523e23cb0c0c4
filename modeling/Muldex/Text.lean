import Mathlib.Data.List.DropRight
import Mathlib.Data.List.Infix
import Mathlib.Tactic.Common

/-!
# Separated and trimmed text

Two facts about lists of characters, over any type of them.

* Words joined by a separator can be told apart when its first character occurs in none of
  them (`intercalate_inj`), and lines that end with a character when it does not occur within
  them (`append_cons_inj`).
* Dropping the elements of a kind from both ends drops exactly those that surround the rest
  (`exists_eq_append_trimmed`, `trimmed_append`), so doing it twice changes nothing
  (`trimmed_trimmed`).
-/

namespace Text

variable {α : Type*}

/-! ## Separators -/

/-- What follows a word in a joined text : nothing, or the separator. -/
def Follows (c : α) (rest : List α) : Prop :=
  ∀ x ∈ rest.head?, x = c

/-- A word ends at the first character it does not have. -/
theorem append_inj_of_follows {c : α} {word word' rest rest' : List α} (hword : c ∉ word)
    (hword' : c ∉ word') (hrest : Follows c rest) (hrest' : Follows c rest')
    (h : word ++ rest = word' ++ rest') : word = word' ∧ rest = rest' := by
  induction word generalizing word' with
  | nil =>
    cases word' with
    | nil => exact ⟨rfl, h⟩
    | cons x word' =>
      rw [List.nil_append, List.cons_append] at h
      obtain rfl : x = c := hrest x (by rw [h]; rfl)
      exact absurd List.mem_cons_self hword'
  | cons x word ih =>
    cases word' with
    | nil =>
      rw [List.nil_append, List.cons_append] at h
      obtain rfl : x = c := hrest' x (by rw [← h]; rfl)
      exact absurd List.mem_cons_self hword
    | cons x' word' =>
      rw [List.cons_append, List.cons_append, List.cons.injEq] at h
      obtain ⟨rfl, h⟩ := h
      obtain ⟨rfl, rfl⟩ := ih (fun hc => hword (List.mem_cons_of_mem _ hc))
        (fun hc => hword' (List.mem_cons_of_mem _ hc)) h
      exact ⟨rfl, rfl⟩

/-- A line is what stands before the first character that ends it. -/
theorem append_cons_inj {c : α} {line line' rest rest' : List α} (hline : c ∉ line)
    (hline' : c ∉ line') :
    line ++ c :: rest = line' ++ c :: rest' ↔ line = line' ∧ rest = rest' := by
  constructor
  · intro h
    have hends (rest : List α) : Follows c (c :: rest) := by simp [Follows]
    obtain ⟨rfl, htail⟩ := append_inj_of_follows hline hline' (hends rest) (hends rest') h
    exact ⟨rfl, (List.cons.inj htail).2⟩
  · rintro ⟨rfl, rfl⟩
    rfl

/-- The rest of a joined text, after its first word. -/
theorem intercalate_cons_eq (sep word : List α) (words : List (List α)) :
    sep.intercalate (word :: words) = word ++ words.flatMap (sep ++ ·) := by
  induction words generalizing word with
  | nil => simp
  | cons word' words ih => simp [List.intercalate_cons_cons, ih]

/-- A joined text has only characters of its separator and its words. -/
theorem not_mem_intercalate {c : α} {sep : List α} (hsep : c ∉ sep) :
    ∀ {words : List (List α)}, (∀ word ∈ words, c ∉ word) → c ∉ sep.intercalate words
  | [], _ => by simp
  | word :: words, hwords => by
    rw [intercalate_cons_eq, List.mem_append, List.mem_flatMap]
    rintro (hc | ⟨word', hword', hc⟩)
    · exact hwords word List.mem_cons_self hc
    · rcases List.mem_append.mp hc with hc | hc
      · exact hsep hc
      · exact hwords word' (List.mem_cons_of_mem _ hword') hc

theorem follows_flatMap (c : α) (sep : List α) (words : List (List α)) :
    Follows c (words.flatMap ((c :: sep) ++ ·)) := by
  cases words with
  | nil => simp [Follows]
  | cons => simp [Follows]

/-- Joined texts are equal only if their words are. -/
theorem intercalate_inj {c : α} {sep : List α} :
    ∀ {words words' : List (List α)}, (∀ word ∈ words, c ∉ word) → (∀ word ∈ words', c ∉ word) →
      words ≠ [] → words' ≠ [] →
        (c :: sep).intercalate words = (c :: sep).intercalate words' → words = words'
  | [], _, _, _, hne, _, _ => absurd rfl hne
  | _ :: _, [], _, _, _, hne, _ => absurd rfl hne
  | word :: words, word' :: words', hwords, hwords', _, _, h => by
    rw [intercalate_cons_eq, intercalate_cons_eq] at h
    obtain ⟨rfl, hrest⟩ := append_inj_of_follows (hwords word List.mem_cons_self)
      (hwords' word' List.mem_cons_self) (follows_flatMap c sep words) (follows_flatMap c sep words') h
    cases words with
    | nil =>
      cases words' with
      | nil => rfl
      | cons => simp at hrest
    | cons next words =>
      cases words' with
      | nil => simp at hrest
      | cons next' words' =>
        rw [List.flatMap_cons, List.flatMap_cons, List.append_assoc, List.append_assoc,
          List.append_cancel_left_eq, ← intercalate_cons_eq, ← intercalate_cons_eq] at hrest
        have htail := intercalate_inj (fun w hw => hwords w (List.mem_cons_of_mem _ hw))
          (fun w hw => hwords' w (List.mem_cons_of_mem _ hw)) (List.cons_ne_nil _ _)
          (List.cons_ne_nil _ _) hrest
        rw [htail]

/-! ## Trimming -/

variable (p : α → Bool)

/-- The list without the elements of a kind at either end. -/
def trimmed (l : List α) : List α :=
  (l.dropWhile p).rdropWhile p

/-- What is dropped is of the kind. -/
theorem exists_eq_append_trimmed (l : List α) :
    ∃ front back, l = front ++ trimmed p l ++ back ∧ (∀ x ∈ front, p x = true) ∧
      ∀ x ∈ back, p x = true := by
  refine ⟨l.takeWhile p, (l.dropWhile p).rtakeWhile p, ?_, fun x hx => ?_, fun x hx => ?_⟩
  · rw [trimmed, List.append_assoc, List.rdropWhile_append_rtakeWhile,
      List.takeWhile_append_dropWhile]
  · exact List.mem_takeWhile_imp hx
  · exact List.mem_rtakeWhile_imp hx

variable {p}

theorem rdropWhile_append_of_pos {l back : List α} (h : ∀ x ∈ back, p x = true) :
    (l ++ back).rdropWhile p = l.rdropWhile p := by
  rw [List.rdropWhile, List.rdropWhile, List.reverse_append,
    List.dropWhile_append_of_pos fun x hx => h x (List.mem_reverse.mp hx)]

/-- Elements of the kind around a list do not matter. -/
theorem trimmed_append {front l back : List α} (hfront : ∀ x ∈ front, p x = true)
    (hback : ∀ x ∈ back, p x = true) : trimmed p (front ++ l ++ back) = trimmed p l := by
  rw [trimmed, trimmed, List.append_assoc, List.dropWhile_append_of_pos hfront,
    List.dropWhile_append]
  split_ifs with h
  · have hl : l.dropWhile p = [] := List.isEmpty_iff.mp h
    have hnone : back.dropWhile p = [] := List.dropWhile_eq_nil_iff.mpr hback
    rw [hl, hnone]
  · exact rdropWhile_append_of_pos hback

theorem trimmed_trimmed (l : List α) : trimmed p (trimmed p l) = trimmed p l := by
  obtain ⟨front, back, hl, hfront, hback⟩ := exists_eq_append_trimmed p l
  calc trimmed p (trimmed p l) = trimmed p (front ++ trimmed p l ++ back) :=
        (trimmed_append hfront hback).symm
    _ = trimmed p l := by rw [← hl]

/-- No element of the kind is left at either end. -/
theorem not_of_mem_ends_trimmed (l : List α) :
    (∀ x ∈ (trimmed p l).head?, p x = false) ∧ ∀ x ∈ (trimmed p l).getLast?, p x = false := by
  constructor
  · intro x hx
    obtain ⟨rest, hrest⟩ := List.rdropWhile_prefix p (l.dropWhile p)
    have hhead : (l.dropWhile p).head? = some x := by
      rw [← hrest, List.head?_append]
      simp only [trimmed] at hx
      rw [Option.mem_def.mp hx]
      rfl
    have hnot := List.head?_dropWhile_not p l
    rw [hhead] at hnot
    simpa using hnot
  · intro x hx
    obtain ⟨hne, rfl⟩ := List.mem_getLast?_eq_getLast hx
    exact Bool.eq_false_iff.mpr (List.rdropWhile_last_not p _ hne)

end Text
