import MessagingRelayer.Foundation.Text

/-!
# Where a pattern occurs in delimited text

A pattern that a delimiter does not occur in is found in one of the parts between the delimiters, or
nowhere (`infix_append_cons_iff`, `infix_separated_iff`). A pattern that ends in the delimiter is
also found where the rest of it ends a part (`infix_concat_iff`). Words with a separator before them
end a text in one way (`separated_suffix_iff`).
-/

set_option autoImplicit false
set_option relaxedAutoImplicit false

namespace MessagingRelayer.Foundation

variable {Symbol : Type*} {pattern first second text word : List Symbol}
  {delimiter separator : Symbol}

theorem infix_append_left (hfound : pattern <:+: first) : pattern <:+: first ++ second :=
  hfound.trans (List.prefix_append first second).isInfix

theorem infix_append_right (hfound : pattern <:+: second) : pattern <:+: first ++ second :=
  hfound.trans (List.suffix_append first second).isInfix

/-- A pattern does not occur in a text that lacks one of its symbols. -/
theorem not_infix_of_notMem {symbol : Symbol} (hpattern : symbol ∈ pattern)
    (htext : symbol ∉ text) : ¬ pattern <:+: text :=
  fun hfound ↦ htext (hfound.subset hpattern)

/-- Assumes: the delimiter is not in the pattern. The pattern occurs before the delimiter or after
it, if at all. -/
theorem infix_append_cons_iff (hpattern : delimiter ∉ pattern) :
    pattern <:+: first ++ delimiter :: second ↔ pattern <:+: first ∨ pattern <:+: second := by
  constructor
  · rintro ⟨before, after, hsplit⟩
    rcases List.append_eq_append_iff.mp hsplit with ⟨rest, hfirst, -⟩ | ⟨rest, hpast, hrest⟩
    · exact Or.inl ⟨before, rest, hfirst.symm⟩
    · cases rest with
      | nil =>
        rw [List.append_nil] at hpast
        exact Or.inl ⟨before, [], by rw [List.append_nil, hpast]⟩
      | cons head tail =>
        obtain ⟨rfl, rfl⟩ : delimiter = head ∧ second = tail ++ after := by simpa using hrest
        rcases List.append_eq_append_iff.mp hpast with ⟨inner, -, hinner⟩ | ⟨inner, -, hinner⟩
        · exact absurd (hinner ▸ by simp) hpattern
        · cases inner with
          | nil =>
            have hsame : pattern = delimiter :: tail := hinner.symm
            exact absurd (hsame ▸ List.mem_cons_self) hpattern
          | cons symbol others =>
            obtain ⟨-, rfl⟩ : delimiter = symbol ∧ tail = others ++ pattern := by
              simpa using hinner
            exact Or.inr ⟨others, after, rfl⟩
  · rintro (hfound | hfound)
    · exact infix_append_left hfound
    · exact infix_append_right (List.infix_cons hfound)

/-- Assumes: a separator of symbols that are not in the pattern. The pattern occurs before the
separator or after it, if at all. -/
theorem infix_separated_iff {separators : List Symbol} (hnonempty : separators ≠ [])
    (hpattern : ∀ symbol ∈ separators, symbol ∉ pattern) :
    pattern <:+: first ++ (separators ++ second) ↔ pattern <:+: first ∨ pattern <:+: second := by
  induction separators generalizing first with
  | nil => exact absurd rfl hnonempty
  | cons head rest ih =>
    rw [List.cons_append, infix_append_cons_iff (hpattern head List.mem_cons_self)]
    cases rest with
    | nil => rfl
    | cons symbol others =>
      have hrest : pattern <:+: [] ++ (symbol :: others ++ second) ↔
          pattern <:+: [] ∨ pattern <:+: second :=
        ih (List.cons_ne_nil _ _) fun symbol hmem ↦ hpattern symbol (List.mem_cons_of_mem _ hmem)
      rw [List.nil_append] at hrest
      rw [hrest]
      constructor
      · rintro (hfound | hfound | hfound)
        · exact Or.inl hfound
        · exact Or.inl (List.infix_nil.mp hfound ▸ List.nil_infix)
        · exact Or.inr hfound
      · rintro (hfound | hfound)
        · exact Or.inl hfound
        · exact Or.inr (Or.inr hfound)

/-- Assumes: the delimiter is not in the word, nor in the first part of the text. The word and the
delimiter occur where the word ends the first part, or after the delimiter. -/
theorem infix_concat_iff (hword : delimiter ∉ word) (hfirst : delimiter ∉ first) :
    word ++ [delimiter] <:+: first ++ delimiter :: second ↔
      word <:+ first ∨ word ++ [delimiter] <:+: second := by
  constructor
  · rintro ⟨before, after, hsplit⟩
    have hcut : before ++ word ++ delimiter :: after = first ++ delimiter :: second := by
      rw [← hsplit]
      simp
    by_cases hbefore : delimiter ∈ before
    · obtain ⟨head, tail, rfl, hhead⟩ := List.eq_append_cons_of_mem hbefore
      have hlater : head ++ delimiter :: (tail ++ word ++ delimiter :: after) =
          first ++ delimiter :: second := by
        rw [← hcut]
        simp
      obtain ⟨-, rfl⟩ := separator_inj hhead hfirst hlater
      exact Or.inr ⟨tail, after, by simp⟩
    · obtain ⟨rfl, -⟩ := separator_inj (by simp [hbefore, hword]) hfirst hcut
      exact Or.inl ⟨before, rfl⟩
  · rintro (⟨before, rfl⟩ | hfound)
    · exact ⟨before, second, by simp⟩
    · exact infix_append_right (List.infix_cons hfound)

/-- Assumes: words without the separator. A text ends in a word after a separator in one way. -/
theorem separated_suffix_iff {last : List Symbol} (hword : separator ∉ word)
    (hlast : separator ∉ last) :
    separator :: word <:+ first ++ separator :: last ↔ word = last := by
  constructor
  · rintro ⟨before, hsplit⟩
    have hreverse := congrArg List.reverse hsplit
    simp only [List.reverse_append, List.reverse_cons, List.append_assoc, List.cons_append,
      List.nil_append] at hreverse
    obtain ⟨hsame, -⟩ := separator_inj (by simpa using hword) (by simpa using hlast) hreverse
    exact List.reverse_injective hsame
  · rintro rfl
    exact List.suffix_append _ _

end MessagingRelayer.Foundation
