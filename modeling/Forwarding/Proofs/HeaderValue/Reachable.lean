import Forwarding.Proofs.Address.Port
import Forwarding.Proofs.HeaderValue.Addresses
import Forwarding.Proofs.Range.Private

/-!
Which addresses header values yield. All three forms yield the same ones, those in reach of a bare
token, and each of them has a value of each form that lists it alone.
-/
namespace Forwarding

variable {a : Address} {l : Literal} {t value : Text}

namespace Literal

/-- Brackets and a port only cut a token down to another one. -/
theorem exists_infix_of_ofHostPort? (h : ofHostPort? t = some l) :
    ∃ part, part <:+: t ∧ ofToken? part = some l := by
  unfold ofHostPort? at h
  split at h
  · obtain ⟨⟨inner, after⟩, hcut, htoken⟩ := Option.bind_eq_some_iff.mp h
    obtain ⟨rfl, -⟩ := Text.cut?_eq_some hcut
    exact ⟨inner, List.infix_cons (List.prefix_append inner _).isInfix, htoken⟩
  · exact ⟨_, (List.takeWhile_prefix _).isInfix, h⟩

end Literal

namespace Address

def hostPort (a : Address) : Text :=
  match a.family with
  | .ipv4 => a.token
  | .ipv6 => '[' :: (a.token ++ [']'])

theorem not_mem_token {c : Char} (hc : c ∉ ':' :: addressChars) : c ∉ a.token :=
  fun hmem => hc (a.mem_chars_token hmem)

def hostPortChars : Text := '[' :: ']' :: ':' :: addressChars

theorem mem_chars_hostPort {c : Char} (hc : c ∈ a.hostPort) : c ∈ hostPortChars := by
  have htoken (hmem : c ∈ a.token) : c ∈ hostPortChars :=
    List.mem_cons_of_mem _ (List.mem_cons_of_mem _ (a.mem_chars_token hmem))
  unfold hostPort at hc
  split at hc
  · exact htoken hc
  · simp only [List.mem_cons, List.mem_append, List.not_mem_nil, or_false] at hc
    rcases hc with rfl | hmem | rfl
    · exact List.mem_cons_self ..
    · exact htoken hmem
    · exact List.mem_cons_of_mem _ (List.mem_cons_self ..)

theorem not_mem_hostPort {c : Char} (hc : c ∉ hostPortChars) : c ∉ a.hostPort :=
  fun hmem => hc (mem_chars_hostPort hmem)

theorem ofHostPort?_hostPort (h : a.IsReachable) :
    Literal.ofHostPort? a.hostPort = some ⟨a, a.token⟩ := by
  rw [← Literal.ofToken?_token h]
  unfold hostPort
  split
  · next hfamily =>
    have hbracket : a.token.head? ≠ some '[' := by
      intro hhead
      exact not_mem_token (by decide) (List.mem_of_head? hhead)
    rw [Literal.ofHostPort?_unbracketed hbracket,
      Text.before_eq_self (colon_not_mem_token hfamily)]
  · exact Literal.ofHostPort?_bracketed (not_mem_token (by decide)) []

end Address

theorem Forwarded.parameters_single (hne : value ≠ []) (hquote : '"' ∉ value)
    (hplain : ∀ c ∈ value, isDelimiter c = false) :
    parameters ('f' :: 'o' :: 'r' :: '=' :: value) = [(['f', 'o', 'r'], value)] := by
  have hvalue : value? value = some (some value, []) := by
    obtain ⟨c, rest, rfl⟩ := List.exists_cons_of_ne_nil hne
    obtain ⟨hc, hrest⟩ := List.forall_mem_cons.mp hplain
    have hfirst : c ≠ '"' := by
      rintro rfl
      simp at hquote
    have htake : rest.takeWhile (!isDelimiter ·) = rest :=
      List.takeWhile_eq_self_iff.mpr fun d hd => by simp [hrest d hd]
    have hdrop : rest.dropWhile (!isDelimiter ·) = [] :=
      List.dropWhile_eq_nil_iff.mpr fun d hd => by simp [hrest d hd]
    rw [value?, if_neg (by simp [hc]), htake, hdrop]
    simpa using hfirst
  have hparameter : parameter? ('f' :: 'o' :: 'r' :: '=' :: value) =
      some (some (['f', 'o', 'r'], value), []) := by
    simp [parameter?, isDelimiter_iff, hvalue]
  rw [parameters, hparameter]
  simp [parameters, parameter?]

theorem Via.words_single (hne : value ≠ []) (hplain : ∀ c ∈ value, isGap c = false) :
    words ('1' :: '.' :: '1' :: ' ' :: value) = [['1', '.', '1'], value] :=
  calc words (['1', '.', '1'] ++ ' ' :: value)
      = words ['1', '.', '1'] ++ words value := words_append_gap rfl _ _
    _ = [['1', '.', '1']] ++ [value] := by
        have hlead : words ['1', '.', '1'] = [['1', '.', '1']] := by decide
        rw [hlead, words_of_no_gap hplain, Text.nonempty?, if_neg hne]
        rfl

namespace ValueForm

def single (form : ValueForm) (a : Address) : Text :=
  match form with
  | .plain => a.token
  | .forwarded => 'f' :: 'o' :: 'r' :: '=' :: a.hostPort
  | .via => '1' :: '.' :: '1' :: ' ' :: a.hostPort

theorem addresses_single (form : ValueForm) (h : a.IsReachable) :
    form.addresses (form.single a) = [⟨a, a.token⟩] := by
  have hfound := Address.ofHostPort?_hostPort h
  have hne : a.hostPort ≠ [] := by
    intro hnil
    rw [hnil] at hfound
    simp [Literal.ofHostPort?, Text.before, Literal.ofToken?] at hfound
  cases form with
  | plain =>
    -- no space in front of the token is lost
    have hstart : a.token.dropWhile (· = ' ') = a.token := by
      obtain ⟨c, rest, htoken, hc⟩ := Address.exists_token_cons h
      have hspace : c ≠ ' ' := by
        rintro rfl
        exact absurd hc (by decide)
      rw [htoken, List.dropWhile_cons_of_neg (by simpa using hspace)]
    rw [addresses, single, List.splitOn_eq_singleton (Address.not_mem_token (by decide))]
    simp [hstart, Literal.ofToken?_token h]
  | forwarded =>
    have hchars : Address.hostPortChars.all (!Forwarded.isDelimiter ·) := by decide
    have hplain (c : Char) (hc : c ∈ a.hostPort) : Forwarded.isDelimiter c = false := by
      simpa using List.all_eq_true.mp hchars c (Address.mem_chars_hostPort hc)
    have hparameters :=
      Forwarded.parameters_single hne (Address.not_mem_hostPort (by decide)) hplain
    have hkey : Text.lower ['f', 'o', 'r'] = ['f', 'o', 'r'] := by decide
    simp [addresses, single, Forwarded.addresses, hparameters, Forwarded.forValues, hkey, hfound]
  | via =>
    have hchars : Address.hostPortChars.all (!Via.isGap ·) := by decide
    have hplain (c : Char) (hc : c ∈ a.hostPort) : Via.isGap c = false := by
      simpa using List.all_eq_true.mp hchars c (Address.mem_chars_hostPort hc)
    have hwords := Via.words_single hne hplain
    have hcomma : ',' ∉ '1' :: '.' :: '1' :: ' ' :: a.hostPort := by
      simpa using Address.not_mem_hostPort (a := a) (c := ',') (by decide)
    simp [addresses, single, List.splitOn_eq_singleton hcomma, hwords, hfound]

theorem exists_ofToken?_of_mem_addresses {form : ValueForm} (h : l ∈ form.addresses value) :
    ∃ t, Literal.ofToken? t = some l := by
  cases form with
  | plain =>
    obtain ⟨entry, -, htoken⟩ := List.mem_filterMap.mp h
    exact ⟨_, htoken⟩
  | forwarded =>
    obtain ⟨t, -, hfound⟩ := List.mem_filterMap.mp h
    obtain ⟨part, -, htoken⟩ := Literal.exists_infix_of_ofHostPort? hfound
    exact ⟨part, htoken⟩
  | via =>
    obtain ⟨hop, -, hhop⟩ := List.mem_filterMap.mp h
    obtain ⟨t, -, hfound⟩ := Option.bind_eq_some_iff.mp hhop
    obtain ⟨part, -, htoken⟩ := Literal.exists_infix_of_ofHostPort? hfound
    exact ⟨part, htoken⟩

theorem mem_addresses_of_choose {form : ValueForm} (h : form.choose value = some l) :
    l ∈ form.addresses value := by
  rw [choose_eq_preferred] at h
  exact Selection.mem_of_preferred h

theorem choose_single (form : ValueForm) (h : a.IsReachable) :
    form.choose (form.single a) = some ⟨a, a.token⟩ := by
  rw [choose_eq_preferred, addresses_single form h, Selection.preferred_singleton]

theorem isReachable_of_choose {form : ValueForm} (h : form.choose value = some l) :
    l.address.IsReachable := by
  obtain ⟨t, htoken⟩ := exists_ofToken?_of_mem_addresses (mem_addresses_of_choose h)
  exact Literal.isReachable_of_ofToken? htoken

/-- A spelling in a value that stands for an IPv4 address is read as that. -/
theorem address_eq_of_mapped {form : ValueForm} {octets : List UInt8}
    (h : l ∈ form.addresses value) (hmapped : IsZoned l.spelling (mappedBytes octets)) :
    l.address.family = .ipv4 ∧ l.address.bytes = octets := by
  obtain ⟨t, htoken⟩ := exists_ofToken?_of_mem_addresses h
  have hspelling := Literal.spelling_of_ofToken? htoken
  have hlen : octets.length = Family.ipv4.width := by
    have hwidth := hmapped.length_eq
    simpa [mappedBytes, Family.width] using hwidth
  rw [hspelling] at hmapped
  have heq : l = ⟨⟨.ipv4, octets, hlen⟩, t⟩ :=
    Option.some.inj (htoken.symm.trans (Literal.ofToken?_mapped hlen hmapped))
  rw [heq]
  exact ⟨rfl, rfl⟩

/-- The addresses that tokens spell are the addresses in reach, and each form of header value yields
all of them and no others. So of IPv6 only the loopback address is ever private, and a spelling that
stands for an IPv4 address is judged as that, whether or not it is the one chosen. -/
theorem yields_reachable (form : ValueForm) (a : Address) :
    ((∃ t l, Literal.ofToken? t = some l ∧ l.address = a) ↔ a.IsReachable) ∧
      ((∃ value l, form.choose value = some l ∧ l.address = a) ↔ a.IsReachable) ∧
      (∀ value l, form.choose value = some l → l.address.family = .ipv6 →
        (l.isPrivate ↔ l.address = Address.loopback)) ∧
      (∀ t octets (h : octets.length = Family.ipv4.width), IsZoned t (mappedBytes octets) →
        Literal.ofToken? t = some ⟨⟨.ipv4, octets, h⟩, t⟩) ∧
      ∀ value, form.choose value = Selection.preferred (form.addresses value) ∧
        ∀ l ∈ form.addresses value, ∀ octets, IsZoned l.spelling (mappedBytes octets) →
          l.address.family = .ipv4 ∧ l.address.bytes = octets := by
  refine ⟨⟨?_, fun h => ?_⟩, ⟨?_, fun h => ?_⟩, ?_, fun t octets h => Literal.ofToken?_mapped h,
    fun value => ⟨choose_eq_preferred form value, ?_⟩⟩
  · rintro ⟨t, l, htoken, rfl⟩
    exact Literal.isReachable_of_ofToken? htoken
  · exact ⟨a.token, _, Literal.ofToken?_token h, rfl⟩
  · rintro ⟨value, l, hchoose, rfl⟩
    exact isReachable_of_choose hchoose
  · exact ⟨form.single a, _, choose_single form h, rfl⟩
  · intro value l hchoose hfamily
    -- what is in reach begins below all private blocks but the first
    rcases isReachable_of_choose hchoose with hipv4 | ⟨-, -, hfirst⟩
    · rw [hipv4] at hfamily
      exact absurd hfamily (by decide)
    · exact Address.isPrivate_iff_loopback hfamily hfirst
  · intro l hl octets hmapped
    exact address_eq_of_mapped hl hmapped

/-- A list that holds only the loopback address yields it, as a private address. A spelling that
stands for an IPv4 address is read as that address, in a longer list too. -/
theorem yields_reachable_loopback :
    let spelled : Text := "::ffff:10.0.0.1"
    let loopback : Literal := ⟨Address.loopback, "::1"⟩
    let mapped : Literal := ⟨⟨.ipv4, [10, 0, 0, 1], rfl⟩, spelled⟩
    Address.loopback.IsReachable ∧ IsZoned spelled (mappedBytes [10, 0, 0, 1]) ∧
      ValueForm.plain.choose "::1" = some loopback ∧ loopback.isPrivate ∧
      Literal.ofToken? spelled = some mapped ∧
      mapped ∈ ValueForm.plain.addresses "::1, ::ffff:10.0.0.1" ∧
      mapped.address.family = .ipv4 := by
  intro spelled loopback mapped
  have hread : Address.readIpv6? spelled = some ⟨.ipv6, mappedBytes [10, 0, 0, 1], rfl⟩ := by
    decide +kernel
  have hzoned : IsZoned spelled (mappedBytes [10, 0, 0, 1]) :=
    (Address.readIpv6?_eq_some_iff.mp hread).2
  have hchoose : ValueForm.plain.choose "::1" = some loopback := by decide +kernel
  have hmem : mapped ∈ ValueForm.plain.addresses "::1, ::ffff:10.0.0.1" := by decide +kernel
  obtain ⟨-, hreachable, hprivate, hmapped, hall⟩ := yields_reachable .plain Address.loopback
  refine ⟨hreachable.mp ⟨_, _, hchoose, rfl⟩, hzoned, hchoose, ?_, hmapped _ _ rfl hzoned, hmem, ?_⟩
  · exact (hprivate _ _ hchoose rfl).mpr rfl
  · exact ((hall _).2 mapped hmem _ hzoned).1

end ValueForm

end Forwarding
