import Forwarding.Proofs.HeaderValue.Addresses
import Forwarding.Proofs.Text.Runs

/-!
The hops of a `Via` value. A search with backtracking for blanks, a protocol, blanks and a receiver
has one match up to the length of the receiver, and it finds the second word of the hop.
-/
namespace Forwarding.Via

variable {hop stem tail t : Text}

def hopPattern : List Text.Run := [⟨isGap, 0⟩, ⟨(!isGap ·), 1⟩, ⟨isGap, 1⟩, ⟨(!isGap ·), 1⟩]

theorem word?_eq (t : Text) :
    word? t =
      if 1 ≤ ((t.dropWhile isGap).takeWhile (!isGap ·)).length then
        some ((t.dropWhile isGap).takeWhile (!isGap ·))
      else none := by
  unfold word?
  cases (t.dropWhile isGap).takeWhile (!isGap ·) <;> simp

/-- Only characters of the receiver are given back: the blanks and the protocol are the same in
every match. -/
theorem allMatches_hopPattern (hop : Text) :
    Text.allMatches hopPattern hop =
      (Text.takes (!isGap ·) 1 ((afterWord hop).dropWhile isGap)).map fun way =>
        [hop.takeWhile isGap, (hop.dropWhile isGap).takeWhile (!isGap ·),
          (afterWord hop).takeWhile isGap, way.1] := by
  have hword : ∀ c, isGap c → (!isGap c) = false := by simp
  have hgap : ∀ c, (!isGap c) = true → isGap c = false := by simp
  unfold hopPattern
  rw [Text.allMatches_cons_cons Nat.one_pos hword, if_pos (Nat.zero_le _),
    Text.allMatches_cons_cons Nat.one_pos hgap, Text.allMatches_cons_cons Nat.one_pos hword,
    Text.allMatches_singleton, ← afterWord]
  cases hrest : afterWord hop with
  | nil => simp [Text.takes]
  | cons c rest =>
    have hc : isGap c := by simpa using Text.not_of_dropWhile_eq_cons hrest
    have hprotocol : 1 ≤ ((hop.dropWhile isGap).takeWhile (!isGap ·)).length := by
      by_contra hshort
      have hnone : word? hop = none := by rw [word?_eq, if_neg hshort]
      simp [afterWord_eq_nil hnone] at hrest
    have hblank : 1 ≤ ((c :: rest).takeWhile isGap).length := by simp [hc]
    rw [if_pos hprotocol, if_pos hblank, List.map_map, List.map_map, List.map_map]
    rfl

/-- The first match holds the receiver in its last part. -/
theorem firstMatch?_hopPattern (hop : Text) :
    (Text.firstMatch? hopPattern hop).bind (·[3]?) = receiver? hop := by
  unfold Text.firstMatch? receiver?
  rw [allMatches_hopPattern, List.head?_map, Text.head?_takes, word?_eq]
  split <;> rfl

/-- No match breaks the protocol off: it is the first word of the hop. -/
theorem protocol_eq_word {parts : List Text} (hfits : List.Forall₂ Text.Run.Fits hopPattern parts)
    (hfront : parts.flatten <+: hop) : parts[1]? = (words hop)[0]? := by
  have hmatch : parts ∈ Text.allMatches hopPattern hop :=
    Text.mem_allMatches_iff.mpr ⟨hfront, hfits⟩
  rw [allMatches_hopPattern, List.mem_map] at hmatch
  obtain ⟨way, hway, rfl⟩ := hmatch
  cases hfirst : word? hop with
  | none =>
    rw [afterWord_eq_nil hfirst] at hway
    simp [Text.takes] at hway
  | some first =>
    rw [words_eq, hfirst]
    rw [word?_eq] at hfirst
    split at hfirst
    · exact hfirst
    · simp at hfirst

/-- A text in front of a gap, or of nothing, keeps its words. -/
theorem words_append (stem : Text) (h : ∀ c ∈ tail.head?, isGap c) :
    words (stem ++ tail) = words stem ++ words tail := by
  cases tail with
  | nil => simp
  | cons gap rest =>
    have hgap : isGap gap := h gap rfl
    rw [words_append_gap hgap, words_cons_gap hgap]

theorem addresses_of_no_comma (h : ',' ∉ hop) :
    ValueForm.via.addresses hop = ((words hop)[1]?.bind Literal.ofHostPort?).toList := by
  rw [ValueForm.addresses, List.splitOn_eq_singleton h]
  cases hfound : (words hop)[1]?.bind Literal.ofHostPort? <;> simp [hfound]

/-- The addresses of a value are those of its hops. -/
theorem addresses_intercalate (hops : List Text) :
    ValueForm.via.addresses ([','].intercalate hops) = hops.flatMap ValueForm.via.addresses := by
  induction hops with
  | nil => simp [ValueForm.addresses]
  | cons hop hops ih =>
    cases hops with
    | nil => simp
    | cons next hops =>
      have hjoin : [','].intercalate (hop :: next :: hops) =
          hop ++ ',' :: [','].intercalate (next :: hops) := by
        simp [List.intercalate_cons_cons]
      rw [List.flatMap_cons, ← ih, hjoin]
      simp only [ValueForm.addresses, List.splitOn_append_cons_self, List.filterMap_append]

theorem choose_intercalate (hops : List Text) :
    choose ([','].intercalate hops) =
      Selection.preferred (hops.flatMap ValueForm.via.addresses) := by
  rw [← addresses_intercalate]
  exact ValueForm.choose_eq_preferred .via _

/-- A hop of fewer than two words has no receiver. -/
theorem addresses_of_short (hcomma : ',' ∉ hop) (hshort : (words hop).length < 2) :
    ValueForm.via.addresses hop = [] := by
  have hnone : (words hop)[1]? = none := List.getElem?_eq_none (by omega)
  simp [addresses_of_no_comma hcomma, hnone]

/-- What follows the second word behind a gap does not count. -/
theorem addresses_append_tail (hcomma : ',' ∉ stem ++ tail) (hlong : 2 ≤ (words stem).length)
    (htail : ∀ c ∈ tail.head?, isGap c) :
    ValueForm.via.addresses (stem ++ tail) = ValueForm.via.addresses stem := by
  have hstem : ',' ∉ stem := fun h => hcomma (List.mem_append_left tail h)
  rw [addresses_of_no_comma hcomma, addresses_of_no_comma hstem, words_append stem htail,
    List.getElem?_append_left hlong]

/-- The choice from the hops of a value: the preferred address among those that their second words
spell. A search with backtracking for the pattern of a hop finds the same word, and no way to match
the pattern breaks off a part of the protocol. A hop without a second word contributes nothing, and
neither does what follows the second word. Only spaces and tabs separate words. -/
theorem choose_receivers (value : Text) :
    choose value = Selection.preferred
        ((value.splitOn ',').filterMap fun hop => (words hop)[1]?.bind Literal.ofHostPort?) ∧
    (∀ hop, receiver? hop = (words hop)[1]? ∧
      (Text.firstMatch? hopPattern hop).bind (·[3]?) = (words hop)[1]? ∧
      ∀ parts, List.Forall₂ Text.Run.Fits hopPattern parts → parts.flatten <+: hop →
        parts[1]? = (words hop)[0]?) ∧
    (∀ before after hop, ',' ∉ hop → (words hop).length < 2 →
      choose ([','].intercalate (before ++ hop :: after)) =
        choose ([','].intercalate (before ++ after))) ∧
    (∀ before after stem tail tail', ',' ∉ stem ++ tail → ',' ∉ stem ++ tail' →
      2 ≤ (words stem).length → (∀ c ∈ tail.head?, isGap c) → (∀ c ∈ tail'.head?, isGap c) →
      choose ([','].intercalate (before ++ (stem ++ tail) :: after)) =
        choose ([','].intercalate (before ++ (stem ++ tail') :: after))) ∧
    ∀ t, t ≠ [] → ' ' ∉ t → '\t' ∉ t → words t = [t] := by
  refine ⟨ValueForm.choose_eq_preferred .via value, ?_, ?_, ?_, ?_⟩
  · intro hop
    refine ⟨receiver?_eq_getElem? hop, ?_, fun parts => protocol_eq_word⟩
    rw [firstMatch?_hopPattern, receiver?_eq_getElem?]
  · intro before after hop hcomma hshort
    rw [choose_intercalate, choose_intercalate, List.flatMap_append, List.flatMap_append,
      List.flatMap_cons, addresses_of_short hcomma hshort, List.nil_append]
  · intro before after stem tail tail' hcomma hcomma' hlong htail htail'
    simp only [choose_intercalate, List.flatMap_append, List.flatMap_cons,
      addresses_append_tail hcomma hlong htail, addresses_append_tail hcomma' hlong htail']
  · intro t hne hspace htab
    have hplain : ∀ c ∈ t, isGap c = false := by
      intro c hc
      simp [isGap, ne_of_mem_of_not_mem hc hspace, ne_of_mem_of_not_mem hc htab]
    rw [words_of_no_gap hplain, Text.nonempty?, if_neg hne]
    rfl

/-- A hop with tabs, a line feed inside its protocol and a comment, between two hops of one word. -/
theorem choose_receivers_comment :
    let hop : Text := "\t1.1\nx\t 8.8.8.8:80"
    let value : Text := [','].intercalate ["fred", hop ++ " (10.0.0.1)", "8.8.4.4 "]
    words hop = ["1.1\nx".toList, "8.8.8.8:80".toList] ∧
      Text.firstMatch? hopPattern hop =
        some ["\t".toList, "1.1\nx".toList, "\t ".toList, "8.8.8.8:80".toList] ∧
      choose value = choose ([','].intercalate ["fred", hop ++ "\tproxy", "8.8.4.4 "]) ∧
      (choose value).map (·.spelling) = some "8.8.8.8".toList := by
  intro hop value
  obtain ⟨hchoose, -, -, htail, -⟩ := choose_receivers value
  have hgap {gap : Char} {rest : Text} (h : isGap gap) : ∀ c ∈ (gap :: rest).head?, isGap c := by
    intro c hc
    exact Option.some.inj hc ▸ h
  have hsame := htail ["fred"] ["8.8.4.4 "] hop " (10.0.0.1)" "\tproxy" (by decide) (by decide)
    (by decide) (hgap rfl) (hgap rfl)
  refine ⟨by decide, by decide, hsame, ?_⟩
  rw [hchoose]
  decide +kernel

end Forwarding.Via
