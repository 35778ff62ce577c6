import Forwarding.HeaderValue.PlainList
import Forwarding.HeaderValue.Via
import Forwarding.Proofs.HeaderValue.OtherParameter
import Forwarding.Proofs.Text.AsciiCase

/-!
Elements that are no parameters. A text without an equality sign opens a key, and the key runs on
through the comma and up to the next equality sign. So the element takes the first value behind it
with it, whatever key that value was written for, and the scan goes on behind that value.
-/
namespace Forwarding.Forwarded

variable {junk key read value : Text}

/-- What follows the value behind the first equality sign, if the value has an end. -/
def afterFirstValue? (t : Text) : Option Text :=
  match t.dropWhile (· != '=') with
  | [] => none
  | _ :: afterSign => (value? afterSign).map Prod.snd

def frontAddress? (t : Text) : Option Literal :=
  (parameter? t).bind fun sides =>
    sides.1.bind fun parameter =>
      if isFor parameter.1 then Literal.ofHostPort? parameter.2 else none

theorem not_isFor_of_comma (h : ',' ∈ key) : isFor key = false := by
  have hword : ∀ d ∈ ['f', 'o', 'r'], Text.IsAscii d ∧ d ≠ 'k' := by simp [Text.IsAscii]
  rw [Bool.eq_false_iff, ne_eq, isFor_iff, Text.lower_eq_iff hword]
  intro hlower
  have hmem : Char.toLower ',' ∈ key.map Char.toLower := List.mem_map_of_mem h
  rw [hlower] at hmem
  exact absurd hmem (by decide)

theorem Skips.delimiters (h : ∀ c ∈ junk, isDelimiter c) : Skips .between junk .between := by
  induction junk with
  | nil => exact ⟨rfl, rfl⟩
  | cons c junk ih =>
    obtain ⟨hc, hjunk⟩ := List.forall_mem_cons.mp h
    have hnext : State.between.next c = .between := by simp [State.next, hc]
    apply Skips.cons rfl
    rw [hnext]
    exact ih hjunk

/-- Text that is more than delimiters and holds no equality sign leaves the scan inside a key. -/
theorem exists_skips_key (hsign : '=' ∉ junk) (hjunk : ∃ c ∈ junk, isDelimiter c = false) :
    ∃ read, Skips .between junk (.key read) := by
  have hcut := List.takeWhile_append_dropWhile (p := isDelimiter) (l := junk)
  have hfront : Skips .between (junk.takeWhile isDelimiter) .between :=
    Skips.delimiters fun c hc => List.mem_takeWhile_imp hc
  cases hback : junk.dropWhile isDelimiter with
  | nil =>
    rw [List.dropWhile_eq_nil_iff] at hback
    obtain ⟨c, hc, hdelimiter⟩ := hjunk
    simp [hback c hc] at hdelimiter
  | cons c rest =>
    have hstart : State.between.next c = .key [c] := by
      simp [State.next, Text.not_of_dropWhile_eq_cons hback]
    rw [hback] at hcut
    rw [← hcut, List.mem_append, List.mem_cons, not_or, not_or] at hsign
    obtain ⟨-, -, hrest⟩ := hsign
    have hkey : Skips (State.between.next c) rest (.key (rest.reverse ++ [c])) := by
      rw [hstart]
      exact Skips.inKey hrest [c]
    exact ⟨_, hcut ▸ hfront.append (Skips.cons rfl hkey)⟩

/-- A key that holds a comma is not wanted, so its value goes with it. -/
theorem completed_key_of_comma (h : ',' ∈ read) (t : Text) :
    completed (.key read) t = (afterFirstValue? t).elim [] (completed .between) := by
  rw [completed_key, afterFirstValue?]
  cases t.dropWhile (· != '=') with
  | nil => rfl
  | cons sign afterSign =>
    have hunwanted : isFor (read.reverse ++ t.takeWhile (· != '=')) = false :=
      not_isFor_of_comma (by simp [h])
    simp only [hunwanted, completed_beforeValue]
    cases value? afterSign <;> rfl

/-- The element takes everything with it up to the end of the first value behind it. -/
theorem completed_append_junk (hsign : '=' ∉ junk) (hjunk : ∃ c ∈ junk, isDelimiter c = false)
    (value : Text) :
    completed .between (junk ++ ',' :: ' ' :: value) =
      (afterFirstValue? value).elim [] (completed .between) := by
  obtain ⟨read, hread⟩ := exists_skips_key hsign hjunk
  have hcomma : Skips (.key read) [',', ' '] (.key (' ' :: ',' :: read)) :=
    Skips.inKey (by decide) read
  calc completed .between (junk ++ ',' :: ' ' :: value)
      = completed .between (junk ++ [',', ' '] ++ value) := by simp
    _ = completed (.key (' ' :: ',' :: read)) value := (hread.append hcomma).completed_append value
    _ = (afterFirstValue? value).elim [] (completed .between) := completed_key_of_comma (by simp) value

theorem dropWhile_sign (t : Text) :
    (t.dropWhile isDelimiter).dropWhile (· != '=') = t.dropWhile (· != '=') := by
  have hfront : ∀ c ∈ t.takeWhile isDelimiter, (c != '=') = true := by
    intro c hc
    have hdelimiter := List.mem_takeWhile_imp hc
    rw [bne_iff_ne]
    rintro rfl
    exact absurd hdelimiter (by decide)
  conv_rhs => rw [← List.takeWhile_append_dropWhile (p := isDelimiter) (l := t)]
  rw [List.dropWhile_append_of_pos hfront]

/-- Unless the key at the front begins with an equality sign, the first such sign ends it. -/
theorem afterFirstValue?_eq (h : (value.dropWhile isDelimiter).head? ≠ some '=') :
    afterFirstValue? value = (parameter? value).map Prod.snd := by
  rw [afterFirstValue?, parameter?, ← dropWhile_sign]
  cases hstart : value.dropWhile isDelimiter with
  | nil => rfl
  | cons first afterFirst =>
    have hfirst : first ≠ '=' := by simpa [hstart] using h
    rw [List.dropWhile_cons_of_pos (by simpa using hfirst)]
    cases hsign : afterFirst.dropWhile (· != '=') with
    | nil => simp [hsign]
    | cons sign afterSign => simp [hsign, Function.comp_def]

/-- Of the addresses in a value the element takes none but that of the parameter at the front. -/
theorem addresses_eq_append_junk (hsign : '=' ∉ junk) (hjunk : ∃ c ∈ junk, isDelimiter c = false)
    (h : (value.dropWhile isDelimiter).head? ≠ some '=') :
    addresses value =
      (frontAddress? value).toList ++ addresses (junk ++ ',' :: ' ' :: value) := by
  simp only [addresses_eq_completed, completed_append_junk hsign hjunk, afterFirstValue?_eq h]
  rw [completed_between_step, frontAddress?]
  cases parameter? value with
  | none => rfl
  | some sides =>
    obtain ⟨parameter, rest⟩ := sides
    cases parameter with
    | none => rfl
    | some parameter =>
      obtain ⟨key, t⟩ := parameter
      cases hfor : isFor key <;> cases ht : Literal.ofHostPort? t <;>
        simp [forValues, ← isFor_iff, hfor, ht]

theorem choose_eq_combine_junk (hsign : '=' ∉ junk) (hjunk : ∃ c ∈ junk, isDelimiter c = false)
    (h : (value.dropWhile isDelimiter).head? ≠ some '=') :
    choose value =
      Selection.combine (frontAddress? value) (choose (junk ++ ',' :: ' ' :: value)) := by
  rw [choose_eq_preferred, choose_eq_preferred, addresses_eq_append_junk hsign hjunk h,
    Selection.preferred_append, Selection.preferred_toList]

theorem choose_append_junk (hsign : '=' ∉ junk) (hjunk : ∃ c ∈ junk, isDelimiter c = false)
    (value : Text) :
    choose (junk ++ ',' :: ' ' :: value) = (afterFirstValue? value).bind choose := by
  rw [choose_eq_preferred, addresses_eq_completed, completed_append_junk hsign hjunk]
  cases afterFirstValue? value with
  | none => rfl
  | some rest => simp [choose_eq_preferred, addresses_eq_completed]

theorem choose_append_delimiters (h : ∀ c ∈ junk, isDelimiter c) (value : Text) :
    choose (junk ++ ',' :: ' ' :: value) = choose value := by
  have hskips : Skips .between (junk ++ [',', ' ']) .between := by
    apply Skips.delimiters
    rw [List.forall_mem_append]
    exact ⟨h, by simp [isDelimiter]⟩
  have hjoin : junk ++ ',' :: ' ' :: value = (junk ++ [',', ' ']) ++ value := by simp
  simp only [choose_eq_preferred, addresses_eq_completed, hjoin, hskips.completed_append]

/-- Elements that are no parameters, in front of a value. One that is made of delimiters is passed
over in front of every value, and no other element is: with any other, the address chosen is the one
chosen behind the first value that follows. That is no harm where the parameter at the front of the
value gives `for` no address. -/
theorem choose_malformed_append {junk : Text} (hsign : '=' ∉ junk) :
    ((∀ value, choose (junk ++ ',' :: ' ' :: value) = choose value) ↔
      ∀ c ∈ junk, isDelimiter c) ∧
    ∀ value,
      ((∃ c ∈ junk, isDelimiter c = false) →
        choose (junk ++ ',' :: ' ' :: value) = (afterFirstValue? value).bind choose) ∧
      ((value.dropWhile isDelimiter).head? ≠ some '=' → frontAddress? value = none →
        choose (junk ++ ',' :: ' ' :: value) = choose value) := by
  have hcases : (∀ c ∈ junk, isDelimiter c) ∨ ∃ c ∈ junk, isDelimiter c = false := by
    by_contra! h
    obtain ⟨⟨c, hc, hdelimiter⟩, hall⟩ := h
    exact hall c hc (by simpa using hdelimiter)
  refine ⟨⟨?_, choose_append_delimiters⟩, ?_⟩
  · intro hskips
    refine hcases.resolve_right fun hjunk => ?_
    -- every such element hides the address of a value that is a single parameter
    have hhidden := choose_append_junk hsign hjunk "for=8.8.8.8".toList
    rw [hskips] at hhidden
    have hchosen : choose "for=8.8.8.8".toList ≠
        (afterFirstValue? "for=8.8.8.8".toList).bind choose := by decide +kernel
    exact hchosen hhidden
  · intro value
    refine ⟨fun hjunk => choose_append_junk hsign hjunk value, ?_⟩
    intro hhead hfront
    rcases hcases with hall | hjunk
    · exact choose_append_delimiters hall value
    · rw [choose_eq_combine_junk hsign hjunk hhead, hfront, Selection.combine_none_left]

/-- The element takes the value of another key with it, which does no harm. -/
theorem choose_malformed_append_otherKey :
    let junk : Text := "secret;_x"
    let value : Text := " by=9.9.9.9;for=10.0.0.1, for=8.8.8.8"
    '=' ∉ junk ∧ (∃ c ∈ junk, isDelimiter c = false) ∧
      (value.dropWhile isDelimiter).head? ≠ some '=' ∧ frontAddress? value = none ∧
      choose (junk ++ ',' :: ' ' :: value) = choose ";for=10.0.0.1, for=8.8.8.8".toList ∧
      choose (junk ++ ',' :: ' ' :: value) = choose value := by
  intro junk value
  have hsign : '=' ∉ junk := by decide
  have hjunk : ∃ c ∈ junk, isDelimiter c = false := ⟨'s', by decide, rfl⟩
  have hhead : (value.dropWhile isDelimiter).head? ≠ some '=' := by decide
  have hfront : frontAddress? value = none := by decide
  obtain ⟨-, hvalues⟩ := choose_malformed_append hsign
  obtain ⟨hbehind, hharmless⟩ := hvalues value
  refine ⟨hsign, hjunk, hhead, hfront, ?_, hharmless hhead hfront⟩
  rw [hbehind hjunk]
  have hrest : afterFirstValue? value = some ";for=10.0.0.1, for=8.8.8.8".toList := by decide
  rw [hrest, Option.bind_some]

/-- A bare word hides the address behind it, which is chosen without the word. In a plain list and
in a list of hops a bare word hides nothing. -/
theorem choose_bareWord :
    let junk : Text := "secret"
    let value : Text := "for=8.8.8.8"
    junk ≠ [] ∧ '=' ∉ junk ∧ '"' ∉ junk ∧ ',' ∉ junk ∧
      choose (junk ++ ',' :: ' ' :: value) = none ∧
      (choose value).map (·.spelling) = some "8.8.8.8".toList ∧
      (PlainList.choose (junk ++ ", 8.8.8.8".toList)).map (·.spelling) =
        some "8.8.8.8".toList ∧
      (Via.choose (junk ++ ", 1.1 8.8.8.8".toList)).map (·.spelling) =
        some "8.8.8.8".toList := by
  decide +kernel

end Forwarding.Forwarded
