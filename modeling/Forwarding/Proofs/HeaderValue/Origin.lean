import Forwarding.Proofs.HeaderValue.Quoted
import Forwarding.Proofs.HeaderValue.Reachable

/-!
Where the spellings of addresses come from. Every spelling stands in the header value, as it is or
in a quoted section that has lost its backslashes.
-/
namespace Forwarding

variable {part value t : Text} {l : Literal}

namespace Forwarded

/-- The part stands in the value as it is, or in a quoted section of the value whose backslashes are
removed. -/
def StandsIn (part value : Text) : Prop :=
  part <:+: value ∨ ∃ body, Escapes body (unquote body) ∧ ('"' :: (body ++ ['"'])) <:+: value ∧
    part <:+: unquote body

theorem StandsIn.of_infix {inner : Text} (h : StandsIn part value) (hinner : inner <:+: part) :
    StandsIn inner value := by
  rcases h with hpart | ⟨body, hbody, hquoted, hpart⟩
  · exact Or.inl (hinner.trans hpart)
  · exact Or.inr ⟨body, hbody, hquoted, hinner.trans hpart⟩

theorem StandsIn.append (h : StandsIn part value) (rest : Text) :
    StandsIn part (value ++ rest) := by
  rcases h with hpart | ⟨body, hbody, hquoted, hpart⟩
  · exact Or.inl (List.infix_append_of_infix_left hpart)
  · exact Or.inr ⟨body, hbody, List.infix_append_of_infix_left hquoted, hpart⟩

/-- What a state keeps is what was read last: of a token all so far, of a quoted value all behind
the opening quote, where the last backslash may still wait for its character. -/
def State.Keeps (seen : Text) : State → Prop
  | .token _ read => read.reverse <:+ seen
  | .quoted _ read false => ('"' :: read.reverse) <:+ seen ∧ ∃ text, Escapes read.reverse text
  | .quoted _ read true => ('"' :: read.reverse) <:+ seen ∧
      ∃ earlier text, read = '\\' :: earlier ∧ Escapes earlier.reverse text
  | _ => True

variable {seen : Text} {state : State}

theorem suffix_concat {last : Text} (h : last <:+ seen) (c : Char) :
    last ++ [c] <:+ seen ++ [c] := by
  obtain ⟨front, rfl⟩ := h
  exact ⟨front, (List.append_assoc ..).symm⟩

theorem State.Keeps.next (h : state.Keeps seen) (c : Char) :
    (state.next c).Keeps (seen ++ [c]) := by
  cases state with
  | between => by_cases hc : isDelimiter c <;> simp [State.next, hc, Keeps]
  | key read => by_cases hc : c = '=' <;> simp [State.next, hc, Keeps]
  | beforeValue wanted =>
    by_cases hquote : c = '"'
    · subst hquote
      exact ⟨List.suffix_append seen _, [], .nil⟩
    · by_cases hc : isDelimiter c
      · simp [State.next, hquote, hc, Keeps]
      · simp only [State.next, hquote, hc, if_false]
        exact List.suffix_append seen [c]
  | token wanted read =>
    by_cases hc : isDelimiter c
    · simp [State.next, hc, Keeps]
    · have hread := suffix_concat h c
      simpa [State.next, hc, Keeps] using hread
  | quoted wanted read escaped =>
    cases escaped with
    | true =>
      -- the waiting backslash and this character are one pair
      obtain ⟨hseen, earlier, text, rfl, hescapes⟩ := h
      have hread := suffix_concat hseen c
      have hpair := hescapes.append (.pair (c := c) .nil)
      exact ⟨by simpa using hread, text ++ [c], by simpa using hpair⟩
    | false =>
      obtain ⟨hseen, text, hescapes⟩ := h
      have hread := suffix_concat hseen c
      by_cases hquote : c = '"'
      · simp [State.next, hquote, Keeps]
      · by_cases hslash : c = '\\'
        · subst hslash
          exact ⟨by simpa using hread, read, text, rfl, hescapes⟩
        · have hplain := hescapes.append (.plain hquote hslash .nil)
          simp only [State.next, hquote, hslash, if_false, decide_false]
          exact ⟨by simpa using hread, text ++ [c], by simpa using hplain⟩

theorem State.Keeps.standsIn (h : state.Keeps seen) {c : Char}
    (hcompleted : state.completed? c = some part) : StandsIn part (seen ++ [c]) := by
  unfold State.completed? at hcompleted
  split at hcompleted
  · split at hcompleted
    · obtain rfl := Option.some.inj hcompleted
      exact Or.inl (List.infix_append_of_infix_left (List.IsSuffix.isInfix h))
    · simp at hcompleted
  · split at hcompleted
    · next read hquote =>
      obtain rfl := Option.some.inj hcompleted
      obtain ⟨hseen, text, hescapes⟩ := h
      subst hquote
      have hbody : Escapes read.reverse (unquote read.reverse) := by rwa [hescapes.unquote_eq]
      refine Or.inr ⟨read.reverse, hbody, ?_, List.infix_rfl⟩
      exact (suffix_concat hseen '"').isInfix
    · simp at hcompleted
  · simp at hcompleted

theorem State.Keeps.standsIn_atEnd (h : state.Keeps seen) (hend : state.atEnd? = some part) :
    StandsIn part seen := by
  unfold State.atEnd? at hend
  split at hend
  · obtain rfl := Option.some.inj hend
    exact Or.inl (List.IsSuffix.isInfix h)
  · simp at hend

/-- What a scan completes stands in the text that it has gone through. -/
theorem standsIn_of_mem_completed (h : state.Keeps seen) (hpart : part ∈ completed state t) :
    StandsIn part (seen ++ t) := by
  induction t generalizing state seen with
  | nil =>
    rw [List.append_nil]
    exact h.standsIn_atEnd (Option.mem_toList.mp hpart)
  | cons c rest ih =>
    rw [List.append_cons]
    rcases List.mem_append.mp hpart with hnow | hlater
    · exact (h.standsIn (Option.mem_toList.mp hnow)).append rest
    · exact ih (h.next c) hlater

end Forwarded

namespace Literal

theorem spelling_infix_of_ofHostPort? (h : ofHostPort? t = some l) : l.spelling <:+: t := by
  obtain ⟨part, hpart, htoken⟩ := exists_infix_of_ofHostPort? h
  rwa [spelling_of_ofToken? htoken]

end Literal

namespace ValueForm

theorem spelling_standsIn {form : ValueForm} (h : l ∈ form.addresses value) :
    Forwarded.StandsIn l.spelling value := by
  cases form with
  | plain =>
    obtain ⟨entry, hentry, htoken⟩ := List.mem_filterMap.mp h
    have hstart : entry.dropWhile (· = ' ') <:+: entry := (List.dropWhile_suffix _).isInfix
    rw [Literal.spelling_of_ofToken? htoken]
    exact Or.inl (hstart.trans (Text.infix_of_mem_splitOnP hentry))
  | forwarded =>
    have hmem : l ∈ Forwarded.addresses value := h
    rw [Forwarded.addresses_eq_completed] at hmem
    obtain ⟨found, hfound, htoken⟩ := List.mem_filterMap.mp hmem
    have hkeeps : Forwarded.State.between.Keeps [] := trivial
    have hstands := Forwarded.standsIn_of_mem_completed hkeeps hfound
    exact hstands.of_infix (Literal.spelling_infix_of_ofHostPort? htoken)
  | via =>
    obtain ⟨hop, hhop, hfound⟩ := List.mem_filterMap.mp h
    obtain ⟨word, hword, htoken⟩ := Option.bind_eq_some_iff.mp hfound
    have hmem := List.mem_of_mem_filter (List.mem_of_getElem? hword)
    have hinfix := (Text.infix_of_mem_splitOnP hmem).trans (Text.infix_of_mem_splitOnP hhop)
    exact Or.inl ((Literal.spelling_infix_of_ofHostPort? htoken).trans hinfix)

end ValueForm
end Forwarding
