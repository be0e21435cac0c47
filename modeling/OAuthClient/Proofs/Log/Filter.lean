import OAuthClient.Log.Tree
import OAuthClient.Proofs.Act
import OAuthClient.Proofs.Log.Rewriting

/-!
# What the filter of the handlers hides

A value of a secret in the middle of a text is lost whatever stands before it. The scan may come to the name of the secret and replace
the value there. It may also have found another secret before whose value runs into the pair, and then the whole pair is lost with that
value. Which of the two happens does not depend on the value. Handlers write a message one after another, each behind its filter, and
what went through one of them goes through the next one unchanged.
-/

namespace OAuthClient.Log

open OAuthClient.Text

/-! ## One value in the place of another -/

/-- A name with an equals sign and a value, in front of a text. -/
def pair (name : String) (value rest : List Char) : List Char :=
  name.toList ++ '=' :: (value ++ rest)

/-- What a text ends with ends outside a word when the text does. -/
theorem EndsOutsideWord.of_append {a b : List Char} (h : EndsOutsideWord (a ++ b)) : EndsOutsideWord b := by
  intro c hc
  refine h c ?_
  rw [List.getLast?_append, Option.mem_def.mp hc]
  rfl

/-- A secret that is found in front of a place where a word may begin has its name and its equals sign in front of that place. -/
theorem Occurs.exists_name_before {before : Option Char} {x tail value rest : List Char} {name : String}
    (h : Occurs before (x ++ tail) name value rest) (hx : x ≠ []) (hout : EndsOutsideWord x) : ∃ u, x = name.toList ++ '=' :: u := by
  have hwritten : x ++ tail = (name.toList ++ ['=']) ++ (value ++ rest) := by
    rw [h.written, List.append_assoc, List.singleton_append]
  rcases List.append_eq_append_iff.mp hwritten with ⟨y, hname, -⟩ | ⟨u, hx, -⟩
  · rcases List.eq_nil_or_concat y with rfl | ⟨y, c, rfl⟩
    · exact ⟨[], by simpa using hname.symm⟩
    · -- the text would be the beginning of a word
      rw [List.concat_eq_append, ← List.append_assoc] at hname
      have hword := (List.append_inj' hname rfl).1
      have hlast := hout (x.getLast hx) (List.getLast?_eq_some_getLast hx)
      have hmem : x.getLast hx ∈ name.toList := hword ▸ List.mem_append_left y (List.getLast_mem hx)
      rw [((of_mem_secret h.secret).2 _ hmem).1] at hlast
      cases hlast
  · exact ⟨u, by simpa using hx⟩

section

variable {name : String} {v v' s : List Char}

/-- In a pair of a secret nothing ends a value. -/
theorem goesOn_pair (hname : name ∈ Parameter.secretWireNames) (hv : IsValue v) :
    ∀ c ∈ name.toList ++ '=' :: v, endsValue c = false := by
  intro c hc
  rcases List.mem_append.mp hc with hc | hc
  · exact ((of_mem_secret hname).2 c hc).2
  · rcases List.mem_cons.mp hc with rfl | hc
    · rfl
    · exact hv.goesOn c hc

/-- No pair of a secret begins where no value goes on. -/
theorem not_endsValue_pair (hname : name ∈ Parameter.secretWireNames) : ¬ EndsValue (pair name v s) := by
  intro h
  obtain ⟨hne, hchars⟩ := of_mem_secret hname
  obtain ⟨c, w, hw⟩ := List.exists_cons_of_ne_nil hne
  have hc := h c (by rw [pair, hw]; rfl)
  rw [(hchars c (by rw [hw]; exact List.mem_cons_self)).2] at hc
  cases hc

/-- What is found in front of the pair of a secret is found there with every other value in the pair. What is left behind it has the
pair in it, or the pair was part of the value and what is left is the same. -/
theorem Occurs.swap {before : Option Char} {x value rest : List Char} {other : String}
    (h : Occurs before (x ++ pair name v s) other value rest) (hname : name ∈ Parameter.secretWireNames) (hv : IsValue v)
    (hv' : IsValue v') (hs : EndsValue s) (hx : x ≠ []) (hout : EndsOutsideWord x) :
    ∃ value' rest', Occurs before (x ++ pair name v' s) other value' rest' ∧
      (rest' = rest ∨ ∃ y, y.length < x.length ∧ EndsOutsideWord y ∧ rest = y ++ pair name v s ∧ rest' = y ++ pair name v' s) := by
  obtain ⟨u, rfl⟩ := h.exists_name_before hx hout
  have hsplit : value ++ rest = u ++ pair name v s := by
    have hwritten := h.written
    rw [List.append_assoc, List.cons_append] at hwritten
    exact (List.cons.inj (List.append_cancel_left hwritten)).2.symm
  rcases List.append_eq_append_iff.mp hsplit with ⟨y, rfl, rfl⟩ | ⟨w, rfl, hpair⟩
  · -- the value ends in front of the pair
    have hy : y ≠ [] := by
      rintro rfl
      exact not_endsValue_pair hname h.ends
    obtain ⟨c, y, rfl⟩ := List.exists_cons_of_ne_nil hy
    refine ⟨value, c :: y ++ pair name v' s, ⟨h.begins, h.secret, by simp, h.value, ?_⟩, Or.inr ⟨c :: y, ?_, ?_, rfl, rfl⟩⟩
    · exact h.ends
    · simp only [List.length_append, List.length_cons]
      omega
    · have hsame : other.toList ++ '=' :: (value ++ c :: y) = (other.toList ++ '=' :: value) ++ (c :: y) := by simp
      exact EndsOutsideWord.of_append (hsame ▸ hout)
  · -- the value goes on to the end of the pair
    have hpair : (name.toList ++ '=' :: v) ++ s = w ++ rest := by
      rw [← hpair, pair, List.append_assoc, List.cons_append]
    have hgoesOn : ∀ c ∈ w, endsValue c = false := fun c hc => h.value.goesOn c (List.mem_append_right u hc)
    obtain ⟨rfl, rfl⟩ := value_append_inj (goesOn_pair hname hv) hgoesOn hs h.ends hpair
    have hvalue : IsValue (u ++ (name.toList ++ '=' :: v')) := by
      refine ⟨by simp, fun c hc => ?_⟩
      rcases List.mem_append.mp hc with hc | hc
      · exact h.value.goesOn c (List.mem_append_left _ hc)
      · exact goesOn_pair hname hv' c hc
    exact ⟨_, s, ⟨h.begins, h.secret, by simp [pair], hvalue, hs⟩, Or.inl rfl⟩

/-- The value of a secret is lost behind every text after which a word may begin. -/
theorem redactFrom_pair (hname : name ∈ Parameter.secretWireNames) (hv : IsValue v) (hv' : IsValue v') (hs : EndsValue s)
    (before : Option Char) (x : List Char) (hout : EndsOutsideWord (before.toList ++ x)) :
    redactFrom (inWord before) (x ++ pair name v s) = redactFrom (inWord before) (x ++ pair name v' s) := by
  -- a secret in front of the pair takes a whole value at once, so the induction is on the length
  generalize hn : x.length = n
  induction n using Nat.strongRecOn generalizing before x with
  | ind n ih =>
    cases x with
    | nil =>
      have hbegins : ∀ c ∈ before, isWordChar c = false := by
        rintro c rfl
        exact hout c rfl
      have hfound {u : List Char} (hu : IsValue u) : secretBehind? (inWord before) (pair name u s) = some (name, s) :=
        secretBehind?_eq_some_iff.mpr ⟨u, hbegins, hname, rfl, hu, hs⟩
      rw [List.nil_append, List.nil_append, redactFrom_of_some (hfound hv), redactFrom_of_some (hfound hv')]
    | cons c x =>
      have hcx : EndsOutsideWord (c :: x) := hout.of_append
      cases hfound : secretBehind? (inWord before) (c :: x ++ pair name v s) with
      | none =>
        have hnone : secretBehind? (inWord before) (c :: x ++ pair name v' s) = none := by
          rw [secretBehind?_eq_none_iff] at hfound ⊢
          intro other value rest hoccurs
          obtain ⟨value', rest', hoccurs', -⟩ := hoccurs.swap hname hv' hv hs (List.cons_ne_nil c x) hcx
          exact hfound other value' rest' hoccurs'
        rw [List.cons_append] at hfound hnone
        rw [List.cons_append, List.cons_append, redactFrom_of_none hfound, redactFrom_of_none hnone]
        exact congrArg (c :: ·) (ih x.length (by rw [← hn]; exact Nat.lt_succ_self _) (some c) x hcx rfl)
      | some found =>
        obtain ⟨other, rest⟩ := found
        obtain ⟨value, hoccurs⟩ := secretBehind?_eq_some_iff.mp hfound
        obtain ⟨value', rest', hoccurs', hleft⟩ := hoccurs.swap hname hv hv' hs (List.cons_ne_nil c x) hcx
        rw [redactFrom_of_some hfound, redactFrom_of_some (secretBehind?_eq_some_iff.mpr ⟨value', hoccurs'⟩)]
        rcases hleft with rfl | ⟨y, hy, hyout, rfl, rfl⟩
        · rfl
        · exact congrArg _ (ih y.length (by rw [← hn]; exact hy) none y hyout rfl)

end

/-- The names of secret parameters are the names of secrets. -/
theorem wireName_mem_secret {p : Parameter} (h : p.isSecret = true) : p.wireName ∈ Parameter.secretWireNames := by
  revert h
  cases p <;> decide

/-- The redaction of a text does not depend on the value of a secret behind which no value goes on. -/
theorem redact_pair {p : Parameter} (hp : p.isSecret = true) {before value value' rest : String} (hv : IsValue value.toList)
    (hv' : IsValue value'.toList) (hbefore : EndsOutsideWord before.toList) (hrest : EndsValue rest.toList) :
    redact (before ++ p.wireName ++ "=" ++ value ++ rest) = redact (before ++ p.wireName ++ "=" ++ value' ++ rest) := by
  have htext (v : String) : (before ++ p.wireName ++ "=" ++ v ++ rest).toList =
      before.toList ++ pair p.wireName v.toList rest.toList := by
    simp [pair]
  rw [redact, redact, htext, htext]
  exact congrArg String.ofList (redactFrom_pair (wireName_mem_secret hp) hv hv' hrest none before.toList hbefore)

/-! ## Handlers -/

/-- Replacing the secrets of a message whose secrets are replaced changes nothing. -/
theorem Message.redacted_redacted {m r : Message} {s : String} (h : m.text = .ok s) (hr : m.redacted = .ok r) : r.redacted = .ok r := by
  obtain ⟨r', hr', htext⟩ := Message.text_redacted h
  cases hr.symm.trans hr'
  rw [redacted, htext]
  show Except.ok (if redact (redact s) = redact s then r else _) = _
  rw [if_pos (redact_redact s)]

/-- A message without secrets is not touched. -/
theorem Message.redacted_of_same {m : Message} {s : String} (h : m.text = .ok s) (hsame : redact s = s) : m.redacted = .ok m := by
  rw [redacted, h]
  show Except.ok (if redact s = s then m else _) = _
  rw [if_pos hsame]

/-- A handler whose filter redacts gives what the filter gives. -/
theorem Handler.filter_of_redacting {h : Handler} (hfilters : h.filters = [.redacting]) (m : Message) : h.filter m = m.redacted := by
  rw [Handler.filter, hfilters]
  show m.redacted >>= Except.ok = m.redacted
  cases m.redacted <;> rfl

/-- The lines that handlers write of a text. -/
def linesOf (now : Instant) (name : String) (weight : Nat) (handlers : List Handler) (text : String) : List (Target × String) :=
  handlers.map fun h => (h.target, line now name (weightName weight) text)

/-- Handlers whose filters redact write every message, each with its secrets replaced. -/
theorem Tree.write_of_redacting (now : Instant) (name : String) (weight : Nat) {handlers : List Handler}
    (hfilters : ∀ h ∈ handlers, h.filters = [.redacting]) {m : Message} {s : String} (hm : m.text = .ok s) (t : Tree) :
    Tree.write now name weight handlers m t =
      ⟨.ok (), { t with lines := t.lines ++ linesOf now name weight handlers (redact s) }, []⟩ := by
  -- each handler gets the message as the one before left it, of which the text is redacted already
  induction handlers generalizing m s t with
  | nil =>
    rw [linesOf, List.map_nil, List.append_nil]
    rfl
  | cons h handlers ih =>
    obtain ⟨r, hr, htext⟩ := Message.text_redacted hm
    have hfilter : (h.filter m).mapError Fault.template = .ok r := by
      rw [Handler.filter_of_redacting (hfilters h List.mem_cons_self), hr]
      rfl
    have hshown : r.text.mapError Fault.template = .ok (redact s) := by
      rw [htext]
      rfl
    rw [Tree.write, hfilter, Act.bind_of_ok (Act.ofExcept_apply (.ok r) t), hshown,
      Act.bind_of_ok (Act.ofExcept_apply (.ok (redact s)) t), Act.bind_of_ok (Act.modify_apply _ t),
      ih (fun h hh => hfilters h (List.mem_cons_of_mem _ hh)) htext, redact_redact]
    simp [linesOf]

/-- Where the handlers of a logger have filters that redact, every message that passes the threshold is written. -/
theorem Tree.log_of_redacting {now : Instant} {name : String} {weight : Nat} {m : Message} {s : String} {t : Tree}
    (hm : m.text = .ok s) (hpasses : t.passes (canonical name) weight = true)
    (hfilters : ∀ h ∈ t.handlers (canonical name), h.filters = [.redacting]) :
    Tree.log now name weight m t =
      ⟨.ok (), { t with lines := t.lines ++ linesOf now (canonical name) weight (t.handlers (canonical name)) (redact s) }, []⟩ := by
  rw [Tree.log, Act.bind_of_ok (Act.get_apply t), if_pos hpasses, Tree.write_of_redacting now (canonical name) weight hfilters hm t]
  rfl

/-- What the filter of the handlers does to messages that can be shown, in four parts.
1. It gives a message whose text is the redaction of the text, the very message where there is nothing to redact, and does nothing to
what it gives.
2. The redaction of a text is what comes of replacing the leftmost occurrences of secrets, one after another.
3. It stops no message: handlers with the filter write every message that passes the threshold.
4. It shows the same for all values of a secret, whatever stands around the pair. -/
theorem redacting_filter :
    (∀ (m : Message) (s : String), m.text = .ok s →
      ∃ r, Filter.redacting.apply m = .ok r ∧ r.text = .ok (redact s) ∧ (redact s = s → r = m) ∧ Filter.redacting.apply r = .ok r) ∧
    (∀ s t : String, t = redact s ↔ Rewrites none s.toList t.toList) ∧
    (∀ (now : Instant) (name : String) (weight : Nat) (m : Message) (s : String) (t : Tree), m.text = .ok s →
      t.passes (canonical name) weight = true → (∀ h ∈ t.handlers (canonical name), h.filters = [.redacting]) →
      Tree.log now name weight m t =
        ⟨.ok (), { t with lines := t.lines ++ linesOf now (canonical name) weight (t.handlers (canonical name)) (redact s) }, []⟩) ∧
    ∀ (p : Parameter) (before value value' rest : String) (m m' : Message), p.isSecret = true → IsValue value.toList →
      IsValue value'.toList → EndsOutsideWord before.toList → EndsValue rest.toList →
      m.text = .ok (before ++ p.wireName ++ "=" ++ value ++ rest) →
      m'.text = .ok (before ++ p.wireName ++ "=" ++ value' ++ rest) →
      ∃ r r' shown, Filter.redacting.apply m = .ok r ∧ Filter.redacting.apply m' = .ok r' ∧
        r.text = .ok shown ∧ r'.text = .ok shown := by
  refine ⟨fun m s hm => ?_, fun s t => rewrites_iff.symm, fun now name weight m s t hm hpasses hfilters =>
    Tree.log_of_redacting hm hpasses hfilters, fun p before value value' rest m m' hp hv hv' hbefore hrest hm hm' => ?_⟩
  · obtain ⟨r, hr, htext⟩ := Message.text_redacted hm
    refine ⟨r, hr, htext, fun hsame => ?_, Message.redacted_redacted hm hr⟩
    exact Except.ok.inj (hr.symm.trans (Message.redacted_of_same hm hsame))
  · obtain ⟨r, hr, htext⟩ := Message.text_redacted hm
    obtain ⟨r', hr', htext'⟩ := Message.text_redacted hm'
    rw [redact_pair hp hv' hv hbefore hrest] at htext'
    exact ⟨r, r', _, hr, hr', htext, htext'⟩

/-- A message whose argument is a request with an authorization code. -/
def codeMessage (code : String) : Message :=
  ⟨"GET %s", .items [.str ("/token?code=" ++ code ++ "&state=a")]⟩

/-- The tree in which the logger of an application is set up. -/
def setUpTree : Tree := Tree.install "app" 20 none {}

/-- Messages about two authorization codes are shown alike by the filter, and a logger that is set up writes each of them. -/
theorem redacting_filter_code :
    (∃ r r' shown, Filter.redacting.apply (codeMessage "s3cret") = .ok r ∧ Filter.redacting.apply (codeMessage "other") = .ok r' ∧
      r.text = .ok shown ∧ r'.text = .ok shown) ∧
    (∃ r, Filter.redacting.apply (codeMessage "s3cret") = .ok r ∧ Filter.redacting.apply r = .ok r) ∧
    (Tree.log 0 "app" 20 (codeMessage "s3cret") setUpTree).state.lines =
      [(.console, line 0 "app" "INFO" (redact "GET /token?code=s3cret&state=a"))] := by
  obtain ⟨hfilter, -, hlog, hvalues⟩ := redacting_filter
  have htext : (codeMessage "s3cret").text = .ok "GET /token?code=s3cret&state=a" := by rfl
  have htext' : (codeMessage "other").text = .ok "GET /token?code=other&state=a" := by rfl
  refine ⟨?_, ?_, ?_⟩
  · exact hvalues .authorizationCode "GET /token?" "s3cret" "other" "&state=a" (codeMessage "s3cret") (codeMessage "other") rfl
      (by decide) (by decide) (by decide) (by decide) htext htext'
  · obtain ⟨r, hr, -, -, hagain⟩ := hfilter (codeMessage "s3cret") _ htext
    exact ⟨r, hr, hagain⟩
  · rw [hlog 0 "app" 20 (codeMessage "s3cret") _ setUpTree htext (by decide +kernel) (by decide +kernel)]
    rfl

end OAuthClient.Log
