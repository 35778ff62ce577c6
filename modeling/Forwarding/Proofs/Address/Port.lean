import Forwarding.Proofs.Address.Token

/-!
Addresses with a port behind them. Everything from the first colon on is cut off, which leaves an
IPv4 address as it was and nothing of an IPv6 address; brackets keep an IPv6 address whole.
-/
namespace Forwarding

variable {t : Text} {bytes : List UInt8}

/-- What stands in front of the first colon of groups is no group at all or a group alone. -/
theorem IsGroups.exists_lead (h : IsGroups t bytes) :
    ∃ lead rest, t = lead ++ ':' :: rest ∧ ':' ∉ lead ∧ '.' ∉ lead := by
  have hgroup {part : Text} {high low : UInt8} (hpart : IsGroup part high low) :
      ':' ∉ part ∧ '.' ∉ part := ⟨hpart.numeral.not_mem (by decide), hpart.dot_not_mem⟩
  cases h with
  | full hparts hlen =>
    cases hparts with
    | nil => simp at hlen
    | quad hquad => simp [hquad.length_eq] at hlen
    | cons hpart hrest =>
      cases hrest with
      | nil => simp at hlen
      | quad | cons => exact ⟨_, _, colonJoin_cons_cons .., hgroup hpart⟩
  | elided hleft =>
    cases hleft with
    | nil => exact ⟨[], _, rfl, by simp⟩
    | @cons part high low parts lead hpart hrest =>
      cases parts with
      | nil =>
        rw [colonJoin, List.intercalate_singleton]
        exact ⟨part, _, rfl, hgroup hpart⟩
      | cons next parts =>
        rw [colonJoin_cons_cons, List.append_assoc]
        exact ⟨part, _, rfl, hgroup hpart⟩

theorem IsZoned.exists_lead (h : IsZoned t bytes) :
    ∃ lead rest, t = lead ++ ':' :: rest ∧ ':' ∉ lead ∧ '.' ∉ lead := by
  obtain ⟨-, hgroups | ⟨body, zone, rfl, hgroups, -, -⟩⟩ := h
  · exact hgroups.exists_lead
  · obtain ⟨lead, rest, rfl, hlead⟩ := hgroups.exists_lead
    exact ⟨lead, _, List.append_assoc .., hlead⟩

theorem IsZoned.head?_ne {c : Char} (h : IsZoned t bytes) (hc : c ∉ ':' :: addressChars) :
    t.head? ≠ some c := by
  intro hhead
  obtain ⟨rest, rfl⟩ := List.head?_eq_some_iff.mp hhead
  obtain ⟨body, hgroups⟩ := h.exists_groups
  exact hgroups.not_mem hc (List.mem_cons_self ..)

namespace Literal

variable {l : Literal}

theorem ofHostPort?_bracketed (h : ']' ∉ t) (rest : Text) :
    ofHostPort? ('[' :: (t ++ ']' :: rest)) = ofToken? t := by
  simp [ofHostPort?, Text.cut?_append h]

theorem ofHostPort?_unbracketed (h : t.head? ≠ some '[') :
    ofHostPort? t = ofToken? (Text.before ':' t) := by
  unfold ofHostPort?
  split
  · simp at h
  · rfl

/-- Without a colon only dotted quads are addresses. -/
theorem ofToken?_of_no_colon (hcolon : ':' ∉ t) (h : ofToken? t = some l) :
    l.address.family = .ipv4 ∧ IsQuad t l.address.bytes := by
  obtain ⟨-, a, hread, rfl⟩ := ofToken?_eq_some_iff.mp h
  rcases Address.read?_eq_some_iff.mp hread with ⟨hfamily, hquad⟩ | ⟨-, hzoned⟩
  · rw [Address.unmap_of_not_isMapped (by simp [Address.isMapped_iff, hfamily])]
    exact ⟨hfamily, hquad⟩
  · exact absurd hzoned.colon_mem hcolon

theorem family_of_ofHostPort? (hbracket : t.head? ≠ some '[') (h : ofHostPort? t = some l) :
    l.address.family = .ipv4 := by
  rw [ofHostPort?_unbracketed hbracket] at h
  exact (ofToken?_of_no_colon (Text.not_mem_before ':' t) h).1

/-- An address text without a colon begins with a decimal digit. -/
theorem exists_head_of_no_colon (h : parse t = .ok l) (hcolon : ':' ∉ t) :
    ∃ c rest, t = c :: rest ∧ c.isDigit := by
  obtain ⟨a, hread, -⟩ := parse_eq_ok_iff.mp h
  rcases Address.read?_eq_some_iff.mp hread with ⟨-, hquad⟩ | ⟨-, hzoned⟩
  · exact hquad.exists_cons
  · exact absurd hzoned.colon_mem hcolon

theorem ofToken?_of_parse (h : parse t = .ok l) (hcolon : ':' ∉ t) : ofToken? t = some l := by
  obtain ⟨c, rest, rfl, hc⟩ := exists_head_of_no_colon h hcolon
  obtain ⟨a, hread, rfl⟩ := parse_eq_ok_iff.mp h
  exact ofToken?_eq_some_iff.mpr ⟨⟨c, rfl, Or.inl hc⟩, a, hread, rfl⟩

/-- An address text with a colon has no address in front of it. -/
theorem ofHostPort?_of_colon (h : parse t = .ok l) (hcolon : ':' ∈ t) (rest : Text) :
    ofHostPort? (t ++ rest) = none := by
  obtain ⟨a, hread, -⟩ := parse_eq_ok_iff.mp h
  rcases Address.read?_eq_some_iff.mp hread with ⟨-, hquad⟩ | ⟨-, hzoned⟩
  · exact absurd hcolon hquad.colon_not_mem
  · have hbracket : (t ++ rest).head? ≠ some '[' := by
      rw [List.head?_append_of_ne_nil _ (List.ne_nil_of_mem hcolon)]
      exact hzoned.head?_ne (by decide)
    obtain ⟨lead, after, rfl, hlead, hdot⟩ := hzoned.exists_lead
    rw [ofHostPort?_unbracketed hbracket, List.append_assoc, List.cons_append,
      Text.before_append hlead, Option.eq_none_iff_forall_ne_some]
    intro found hfound
    exact hdot (ofToken?_of_no_colon hlead hfound).2.dot_mem

/-- Addresses with ports. An address text without a colon is read alike with any port or none; one
with a colon is not read at all, whatever follows, unless it stands in brackets, where it counts as
the bare token. Outside of brackets no reading is an IPv6 address. -/
theorem ofHostPort?_port (t : Text) :
    (∀ l, parse t = .ok l →
      (':' ∉ t → ofToken? t = some l ∧ l.spelling = t ∧ ofHostPort? t = some l ∧
        ∀ port, ofHostPort? (t ++ ':' :: port) = some l) ∧
      (':' ∈ t → (∀ rest, ofHostPort? (t ++ rest) = none) ∧
        (']' ∉ t → ∀ rest, ofHostPort? ('[' :: (t ++ ']' :: rest)) = ofToken? t))) ∧
    (t.head? ≠ some '[' → ∀ l ∈ ofHostPort? t, l.address.family = .ipv4) := by
  refine ⟨fun l h => ⟨fun hcolon => ?_, fun hcolon => ⟨?_, ?_⟩⟩, ?_⟩
  · have htoken := ofToken?_of_parse h hcolon
    have hbracket (rest : Text) : (t ++ rest).head? ≠ some '[' := by
      obtain ⟨c, after, rfl, hc⟩ := exists_head_of_no_colon h hcolon
      rintro ⟨⟩
      exact absurd hc (by decide)
    refine ⟨htoken, spelling_of_ofToken? htoken, ?_, ?_⟩
    · rw [ofHostPort?_unbracketed (by simpa using hbracket []), Text.before_eq_self hcolon, htoken]
    · intro port
      rw [ofHostPort?_unbracketed (hbracket _), Text.before_append hcolon, htoken]
  · exact ofHostPort?_of_colon h hcolon
  · intro hbracket
    exact ofHostPort?_bracketed hbracket
  · intro hbracket l hl
    exact family_of_ofHostPort? hbracket hl

/-- A port behind a dotted quad is cut off. A mapped address with a zone is read in brackets only,
and there as the IPv4 address that it stands for. -/
theorem ofHostPort?_port_zoned :
    let quad : Text := "8.8.8.8"
    let mapped : Text := "::ffff:10.0.0.1%[80"
    (∃ l, parse quad = .ok l ∧ ':' ∉ quad ∧ ofHostPort? "8.8.8.8:[80]".toList = some l) ∧
      (∃ l, parse mapped = .ok l ∧ ':' ∈ mapped ∧ ']' ∉ mapped ∧ ofHostPort? mapped = none ∧
        ofHostPort? "[::ffff:10.0.0.1%[80]:443".toList = ofToken? mapped) ∧
      quad.head? ≠ some '[' ∧ ∀ l ∈ ofHostPort? quad, l.address.family = .ipv4 := by
  intro quad mapped
  have hquad : parse quad = .ok ⟨⟨.ipv4, [8, 8, 8, 8], rfl⟩, quad⟩ := by decide +kernel
  have hmapped : parse mapped = .ok ⟨⟨.ipv4, [10, 0, 0, 1], rfl⟩, mapped⟩ := by decide +kernel
  have hplain := ((ofHostPort?_port quad).1 _ hquad).1 (by decide)
  have hcut := ((ofHostPort?_port mapped).1 _ hmapped).2 (by decide)
  refine ⟨⟨_, hquad, by decide, hplain.2.2.2 "[80]".toList⟩, ⟨_, hmapped, by decide, by decide, ?_,
    hcut.2 (by decide) ":443".toList⟩, by decide, (ofHostPort?_port quad).2 (by decide)⟩
  simpa using hcut.1 []

end Literal
end Forwarding
