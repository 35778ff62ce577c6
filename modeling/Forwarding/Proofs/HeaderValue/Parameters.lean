import Forwarding.HeaderValue.Forwarded
import Forwarding.Proofs.HeaderValue.Choice
import Forwarding.Proofs.Text.LowerCase
import Forwarding.Proofs.Text.Pieces

/-!
Lists of parameters read by their grammar, one parameter after the other. The character scan offers
exactly the values that the grammar gives to the key `for`, in the same order.
-/
namespace Forwarding.Forwarded

/-- The text between quotes, up to the first quote that no backslash consumes, and what follows it.
A backslash goes and the character behind it stays. -/
def quotedBody? : Text → Option (Text × Text)
  | [] => none
  | [c] => if c = '"' then some ([], []) else none
  | c :: next :: rest =>
    if c = '"' then some ([], next :: rest)
    else if c = '\\' then (quotedBody? rest).map fun sides => (next :: sides.1, sides.2)
    else (quotedBody? (next :: rest)).map fun sides => (c :: sides.1, sides.2)

/-- The value behind an equality sign and what follows it. An empty token is no value; at the end of
the text and at an open quote there is nothing to go on with. -/
def value? : Text → Option (Option Text × Text)
  | [] => none
  | '"' :: body => (quotedBody? body).map fun sides => (some sides.1, sides.2)
  | c :: rest =>
    if isDelimiter c then some (none, rest)
    else some (some (c :: rest.takeWhile (!isDelimiter ·)), rest.dropWhile (!isDelimiter ·))

theorem quotedBody?_length {t body rest : Text} (h : quotedBody? t = some (body, rest)) :
    rest.length < t.length := by
  fun_induction quotedBody? t generalizing body rest with
  | case1 | case3 => simp at h
  | case2 | case4 =>
    obtain ⟨-, rfl⟩ := Prod.mk.inj (Option.some.inj h)
    simp
  | case5 next rest' _ ih | case6 c next rest' _ _ ih =>
    obtain ⟨⟨body', after⟩, hbody, hsides⟩ := Option.map_eq_some_iff.mp h
    obtain ⟨-, rfl⟩ := Prod.mk.inj hsides
    have := ih hbody
    simp only [List.length_cons] at this ⊢
    omega

theorem value?_length {t rest : Text} {value : Option Text} (h : value? t = some (value, rest)) :
    rest.length < t.length := by
  unfold value? at h
  split at h
  · simp at h
  · next body =>
    obtain ⟨⟨content, after⟩, hbody, hsides⟩ := Option.map_eq_some_iff.mp h
    obtain ⟨-, rfl⟩ := Prod.mk.inj hsides
    have := quotedBody?_length hbody
    simp only [List.length_cons]
    omega
  · next c after _ =>
    split at h
    · obtain ⟨-, rfl⟩ := Prod.mk.inj (Option.some.inj h)
      simp
    · obtain ⟨-, rfl⟩ := Prod.mk.inj (Option.some.inj h)
      have := (List.dropWhile_sublist (l := after) (!isDelimiter ·)).length_le
      simp only [List.length_cons]
      omega

/-- The parameter at the front and what follows it. A key is one character and all up to the next
equality sign; a key without a value makes no parameter. -/
def parameter? (t : Text) : Option (Option (Text × Text) × Text) :=
  match t.dropWhile isDelimiter with
  | [] => none
  | first :: rest =>
    match rest.dropWhile (· != '=') with
    | [] => none
    | _ :: afterSign =>
      (value? afterSign).map fun sides =>
        (sides.1.map fun value => (first :: rest.takeWhile (· != '='), value), sides.2)

theorem parameter?_length {t rest : Text} {parameter : Option (Text × Text)}
    (h : parameter? t = some (parameter, rest)) : rest.length < t.length := by
  unfold parameter? at h
  split at h
  · simp at h
  · next first afterFirst hstart =>
    split at h
    · simp at h
    · next sign afterSign hsign =>
      obtain ⟨⟨value, after⟩, hvalue, hsides⟩ := Option.map_eq_some_iff.mp h
      obtain ⟨-, rfl⟩ := Prod.mk.inj hsides
      have hafter := value?_length hvalue
      have hkey := (List.dropWhile_sublist (l := afterFirst) (· != '=')).length_le
      have hskip := (List.dropWhile_sublist (l := t) isDelimiter).length_le
      rw [hsign, List.length_cons] at hkey
      rw [hstart, List.length_cons] at hskip
      change after.length < t.length
      omega

def parameters (t : Text) : List (Text × Text) :=
  match _h : parameter? t with
  | none => []
  | some (parameter, rest) => parameter.toList ++ parameters rest
termination_by t.length
decreasing_by exact parameter?_length _h

def completed : State → Text → List Text
  | state, [] => state.atEnd?.toList
  | state, c :: rest => (state.completed? c).toList ++ completed (state.next c) rest

/-- The scan offers what it completes until an offer ends it. -/
theorem scan_eq_offerEach (state : State) (s : Selection) (t : Text) :
    scan state s t = s.offerEach ((completed state t).map Literal.ofHostPort?) := by
  induction t generalizing state s with
  | nil =>
    unfold scan completed
    cases state.atEnd? with
    | none => rfl
    | some value =>
      cases hvalue : Literal.ofHostPort? value <;>
        simp [Selection.offerEach, Selection.settles, hvalue]
  | cons c rest ih =>
    unfold scan completed
    cases state.completed? c with
    | none => simp [Selection.settles, Selection.offer, ih]
    | some value => simp [Selection.offerEach, ih]

/-! What one character adds to a scan, state by state. -/

theorem completed_between_cons (c : Char) (rest : Text) :
    completed .between (c :: rest) =
      if isDelimiter c then completed .between rest else completed (.key [c]) rest := by
  by_cases hc : isDelimiter c <;> simp [completed, State.completed?, State.next, hc]

theorem completed_key_cons (read : Text) (c : Char) (rest : Text) :
    completed (.key read) (c :: rest) =
      if c = '=' then completed (.beforeValue (isFor read.reverse)) rest
      else completed (.key (c :: read)) rest := by
  by_cases hc : c = '=' <;> simp [completed, State.completed?, State.next, hc]

theorem completed_beforeValue_cons (wanted : Bool) (c : Char) (rest : Text) :
    completed (.beforeValue wanted) (c :: rest) =
      if c = '"' then completed (.quoted wanted [] false) rest
      else if isDelimiter c then completed .between rest
      else completed (.token wanted [c]) rest := by
  by_cases hquote : c = '"' <;> by_cases hc : isDelimiter c <;>
    simp [completed, State.completed?, State.next, hquote, hc]

theorem completed_token_cons (wanted : Bool) (read : Text) (c : Char) (rest : Text) :
    completed (.token wanted read) (c :: rest) =
      if isDelimiter c then (if wanted then [read.reverse] else []) ++ completed .between rest
      else completed (.token wanted (c :: read)) rest := by
  by_cases hc : isDelimiter c <;> cases wanted <;>
    simp [completed, State.completed?, State.next, hc]

theorem completed_quoted_cons (wanted : Bool) (read : Text) (c : Char) (rest : Text) :
    completed (.quoted wanted read false) (c :: rest) =
      if c = '"' then (if wanted then [unquote read.reverse] else []) ++ completed .between rest
      else completed (.quoted wanted (c :: read) (c = '\\')) rest := by
  by_cases hc : c = '"' <;> cases wanted <;>
    simp [completed, State.completed?, State.next, hc]

theorem completed_quotedPair (wanted : Bool) (read : Text) (c : Char) (rest : Text) :
    completed (.quoted wanted read false) ('\\' :: c :: rest) =
      completed (.quoted wanted (c :: '\\' :: read) false) rest := by
  cases wanted <;> simp [completed, State.completed?, State.next]

/-! What a scan completes inside one parameter. -/

theorem completed_between_dropWhile (t : Text) :
    completed .between (t.dropWhile isDelimiter) = completed .between t := by
  induction t with
  | nil => rfl
  | cons c rest ih =>
    by_cases hc : isDelimiter c
    · rw [List.dropWhile_cons_of_pos hc, ih, completed_between_cons, if_pos hc]
    · rw [List.dropWhile_cons_of_neg hc]

theorem completed_key (read t : Text) :
    completed (.key read) t =
      match t.dropWhile (· != '=') with
      | [] => []
      | _ :: rest =>
        completed (.beforeValue (isFor (read.reverse ++ t.takeWhile (· != '=')))) rest := by
  induction t generalizing read with
  | nil => rfl
  | cons c rest ih =>
    rw [completed_key_cons]
    by_cases hc : c = '='
    · simp [hc]
    · simp [hc, ih]

theorem completed_token (wanted : Bool) (read t : Text) :
    completed (.token wanted read) t =
      (if wanted then [read.reverse ++ t.takeWhile (!isDelimiter ·)] else []) ++
        completed .between (t.dropWhile (!isDelimiter ·)) := by
  induction t generalizing read with
  | nil => cases wanted <;> simp [completed, State.atEnd?]
  | cons c rest ih =>
    rw [completed_token_cons]
    by_cases hc : isDelimiter c
    · simp [hc, completed_between_cons]
    · simp [hc, ih]

theorem completed_quoted_eq_nil {t : Text} (h : quotedBody? t = none) (wanted : Bool)
    (read : Text) : completed (.quoted wanted read false) t = [] := by
  fun_induction quotedBody? t generalizing read with
  | case1 => rfl
  | case2 | case4 => simp at h
  | case3 c hquote =>
    rw [completed_quoted_cons, if_neg hquote]
    rfl
  | case5 next rest _ ih =>
    rw [completed_quotedPair]
    exact ih (by simpa using h) (next :: '\\' :: read)
  | case6 c next rest hquote hslash ih =>
    rw [completed_quoted_cons, if_neg hquote, decide_eq_false hslash]
    exact ih (by simpa using h) (c :: read)

theorem unquote_cons {c : Char} (hc : c ≠ '\\') (t : Text) : unquote (c :: t) = c :: unquote t := by
  cases t <;> simp [unquote, hc]

/-- A scan inside quotes completes what it has read so far and the body with its backslashes. -/
theorem completed_quoted {t body rest : Text} (h : quotedBody? t = some (body, rest))
    (wanted : Bool) (read : Text) :
    ∃ raw, unquote raw = body ∧ completed (.quoted wanted read false) t =
      (if wanted then [unquote (read.reverse ++ raw)] else []) ++ completed .between rest := by
  fun_induction quotedBody? t generalizing body rest read with
  | case1 | case3 => simp at h
  | case2 | case4 =>
    obtain ⟨rfl, rfl⟩ := Prod.mk.inj (Option.some.inj h)
    exact ⟨[], rfl, by rw [completed_quoted_cons, if_pos rfl, List.append_nil]⟩
  | case5 next rest' _ ih =>
    obtain ⟨⟨body', after⟩, hbody, hsides⟩ := Option.map_eq_some_iff.mp h
    obtain ⟨rfl, rfl⟩ := Prod.mk.inj hsides
    obtain ⟨raw, hraw, hscan⟩ := ih hbody (next :: '\\' :: read)
    refine ⟨'\\' :: next :: raw, by rw [← hraw]; rfl, ?_⟩
    rw [completed_quotedPair, hscan]
    simp
  | case6 c next rest' hquote hslash ih =>
    obtain ⟨⟨body', after⟩, hbody, hsides⟩ := Option.map_eq_some_iff.mp h
    obtain ⟨rfl, rfl⟩ := Prod.mk.inj hsides
    obtain ⟨raw, hraw, hscan⟩ := ih hbody (c :: read)
    refine ⟨c :: raw, by rw [unquote_cons hslash, hraw], ?_⟩
    rw [completed_quoted_cons, if_neg hquote, decide_eq_false hslash, hscan]
    simp

theorem completed_beforeValue (wanted : Bool) (t : Text) :
    completed (.beforeValue wanted) t =
      match value? t with
      | none => []
      | some (value, rest) => (if wanted then value.toList else []) ++ completed .between rest := by
  cases t with
  | nil => rfl
  | cons c rest =>
    rw [completed_beforeValue_cons]
    by_cases hquote : c = '"'
    · rw [if_pos hquote]
      subst hquote
      cases hbody : quotedBody? rest with
      | none => simp [value?, hbody, completed_quoted_eq_nil hbody]
      | some sides =>
        obtain ⟨raw, hraw, hscan⟩ := completed_quoted hbody wanted []
        rw [hscan]
        simp [value?, hbody, ← hraw]
    · rw [if_neg hquote]
      by_cases hc : isDelimiter c
      · simp [value?, hc]
      · rw [if_neg hc, completed_token]
        simp [value?, hc]

theorem isFor_iff {key : Text} : isFor key ↔ Text.lower key = ['f', 'o', 'r'] := by
  unfold isFor
  rw [Bool.and_eq_true, decide_eq_true_eq, decide_eq_true_eq, and_iff_right_iff_imp]
  intro hlower
  have hlength := Text.length_lower (t := key) (by rw [hlower]; decide)
  rw [← hlength, hlower]
  rfl

def forValues (found : List (Text × Text)) : List Text :=
  (found.filter fun parameter => Text.lower parameter.1 = ['f', 'o', 'r']).map Prod.snd

theorem completed_between_step (t : Text) :
    completed .between t =
      match parameter? t with
      | none => []
      | some (parameter, rest) => forValues parameter.toList ++ completed .between rest := by
  rw [← completed_between_dropWhile]
  unfold parameter?
  cases hstart : t.dropWhile isDelimiter with
  | nil => rfl
  | cons first afterFirst =>
    have hfirst : isDelimiter first = false := Text.not_of_dropWhile_eq_cons hstart
    rw [completed_between_cons, if_neg (by simp [hfirst]), completed_key]
    cases hsign : afterFirst.dropWhile (· != '=') with
    | nil => simp [hsign]
    | cons sign afterSign =>
      simp only [hsign, completed_beforeValue, List.reverse_singleton, List.singleton_append]
      cases hvalue : value? afterSign with
      | none => rfl
      | some sides =>
        obtain ⟨value, rest⟩ := sides
        cases value <;> cases hfor : isFor (first :: afterFirst.takeWhile (· != '=')) <;>
          simp [forValues, ← isFor_iff, hfor]

/-- A scan between parameters completes the values that the grammar gives to the key `for`. -/
theorem completed_between (t : Text) : completed .between t = forValues (parameters t) := by
  induction hn : t.length using Nat.strongRecOn generalizing t with
  | ind n ih =>
    rw [completed_between_step, parameters]
    cases hparameter : parameter? t with
    | none => rfl
    | some sides =>
      obtain ⟨parameter, rest⟩ := sides
      have hrest := ih rest.length (by rw [← hn]; exact parameter?_length hparameter) rest rfl
      simp only [hrest, forValues, List.filter_append, List.map_append]

def addresses (value : Text) : List Literal :=
  (forValues (parameters value)).filterMap Literal.ofHostPort?

theorem choose_eq_preferred (value : Text) :
    choose value = Selection.preferred (addresses value) := by
  calc choose value
      = Selection.choose ((completed .between value).map Literal.ofHostPort?) := by
        rw [choose, scan_eq_offerEach, Selection.choose]
    _ = Selection.preferred (addresses value) := by
        rw [Selection.choose_eq_preferred, completed_between, List.filterMap_map]
        rfl

/-- A value without an equality sign has no parameters. -/
theorem parameters_eq_nil {value : Text} (h : '=' ∉ value) : parameters value = [] := by
  have hparameter : parameter? value = none := by
    unfold parameter?
    split
    · rfl
    · next first rest hstart =>
      have hrest : rest.dropWhile (· != '=') = [] := by
        rw [List.dropWhile_eq_nil_iff]
        intro c hc
        have hmem : c ∈ value.dropWhile isDelimiter := by simp [hstart, hc]
        have hne := ne_of_mem_of_not_mem ((List.dropWhile_sublist isDelimiter).subset hmem) h
        simpa using hne
      simp [hrest]
  rw [parameters, hparameter]

theorem choose_eq_none {value : Text} (h : '=' ∉ value) : choose value = none := by
  rw [choose_eq_preferred, addresses, parameters_eq_nil h]
  rfl

/-- The character scan agrees with the grammar on every text. Without early exit it completes the
values of `for` in order, and with it the address chosen is the preferred one among theirs. -/
theorem scan_matches_grammar (value : Text) :
    completed .between value = forValues (parameters value) ∧
      choose value =
        Selection.preferred ((forValues (parameters value)).filterMap Literal.ofHostPort?) :=
  ⟨completed_between value, choose_eq_preferred value⟩

end Forwarding.Forwarded
