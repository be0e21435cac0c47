import OAuthClient.Proofs.Secret.Session

/-!
# Secrets stay out of the log

Two runs of the same steps that differ in the values of secrets tell the log the same, and at every point the descriptions of their
stores are the same. Steps that are alike keep sessions alike and tell the log the same on both sides; the runs follow by induction
on their events.
-/

namespace OAuthClient.StoreSession

open OAuthClient.Session

/-! ## Steps that are alike -/

/-- Two values for the parameter with a name have the same text, or texts of a secret that are both empty or both not. -/
def ValueAlike (name v v' : Json) : Prop :=
  ∀ p, parameter name = .ok p → p.hide v.display = p.hide v'.display

/-- Two steps do the same and differ in the values of secrets only. -/
inductive Step.Alike : Step → Step → Prop where
  | same (s : Step) : Alike s s
  | set {setter : String} {p : Parameter} {v v' : Json} (hsetter : setting? setter = some (.plain p))
      (h : p.hide v.display = p.hide v'.display) : Alike (.set setter v) (.set setter v')
  | insert {name v v' : Json} (h : ValueAlike name v v') : Alike (.insert name v) (.insert name v')
  | entryWith {name v v' : Json} (h : ValueAlike name v v') : Alike (.entryWith name v) (.entryWith name v')
  | extend {pairs pairs' : List (Json × Json)}
      (h : List.Forall₂ (fun d d' => d.1 = d'.1 ∧ ValueAlike d.1 d.2 d'.2) pairs pairs') : Alike (.extend pairs) (.extend pairs')
  | idToken {source source' : IdToken.Source} {room room' : Nat}
      (h : ResultAlike Whatever IdToken.Alike (IdToken.ofSource source room) (IdToken.ofSource source' room')) :
      Alike (.idToken source room) (.idToken source' room')
  | token {name : String} {data data' : Json}
      (h : ResultAlike Whatever Token.Alike (Token.draftOfJson data) (Token.draftOfJson data')) :
      Alike (.token name data) (.token name data')
  | tokenSet {name field : String} {v v' : Json} (h : hideValue field v = hideValue field v') :
      Alike (.tokenSet name field v) (.tokenSet name field v')
  | handleInsert {handle : String} {name v v' : Json} (h : ValueAlike name v v') :
      Alike (.handleInsert handle name v) (.handleInsert handle name v')

/-! ## What steps that are alike do -/

/-- Setting a value by the name of its setter. -/
theorem alike_set {setter : String} {v v' : Json}
    (h : v = v' ∨ ∃ p, setting? setter = some (.plain p) ∧ p.hide v.display = p.hide v'.display) :
    Act.Alike Alike Whatever Whatever (storeStep (.set setter v)) (storeStep (.set setter v')) := by
  refine alike_thenItself ?_
  rcases h with rfl | ⟨p, hsetter, hv⟩
  · split
    · exact Act.Alike.fail trivial
    · exact Act.Alike.same_bind fun d => alike_onStore (Store.alike_insert rfl)
  · rw [hsetter]
    exact alike_onStore (Store.alike_insert hv)

/-- Setting a parameter by its name. -/
theorem alike_insert {name v v' : Json} (h : ValueAlike name v v') :
    Act.Alike Alike Whatever Eq
      (do let p ← lift (parameter name); onStore (Store.insert p v.display))
      (do let p ← lift (parameter name); onStore (Store.insert p v'.display)) := by
  cases hp : parameter name with
  | error fault => exact Act.Alike.fail trivial
  | ok p => exact alike_onStore (Store.alike_insert (h p hp))

/-- Setting a parameter by its name where it is not set. -/
theorem alike_entryWith {name v v' : Json} (h : ValueAlike name v v') :
    Act.Alike Alike Whatever Whatever (storeStep (.entryWith name v)) (storeStep (.entryWith name v')) := by
  unfold storeStep
  dsimp only
  cases hp : parameter name with
  | error fault => exact Act.Alike.fail trivial
  | ok p => exact (alike_onStore (Store.alike_entryWith (h p hp))).bind fun _ _ _ => Act.Alike.pure trivial

/-- Setting parameters by their names in order. -/
theorem alike_extend {pairs pairs' : List (Json × Json)}
    (h : List.Forall₂ (fun d d' => d.1 = d'.1 ∧ ValueAlike d.1 d.2 d'.2) pairs pairs') :
    Act.Alike Alike Whatever Whatever (storeStep (.extend pairs)) (storeStep (.extend pairs')) := by
  refine alike_thenItself (Act.Alike.each ?_ h)
  rintro ⟨name, v⟩ ⟨_, v'⟩ ⟨rfl, hv⟩
  exact alike_insert hv

/-- Taking over what came back from sign-ins. -/
theorem alike_idToken {source source' : IdToken.Source} {room room' : Nat}
    (h : ResultAlike Whatever IdToken.Alike (IdToken.ofSource source room) (IdToken.ofSource source' room')) :
    Act.Alike Alike Whatever Whatever (storeStep (.idToken source room)) (storeStep (.idToken source' room')) :=
  alike_thenItself ((Act.Alike.ofExcept h).bind fun _ _ ht => alike_onStore (Store.alike_acceptIdToken ht))

/-- Answering with what is read from the session and may not be there. -/
theorem alike_answer {α : Type} {read : StoreSession → Except Failure α}
    (hread : ∀ f f', f.Alike f' → TargetAlike Whatever (read f) (read f')) (answer : α → Answer) :
    Act.Alike Alike Whatever Whatever (do let f ← Act.get; return answer (← liftFailure (read f)))
      (do let f ← Act.get; return answer (← liftFailure (read f))) :=
  Act.Alike.get.bind fun f f' hf => (Act.Alike.ofExcept (hread f f' hf).mapError).bind fun _ _ _ => Act.Alike.pure trivial

/-- Steps that work on the current store only. -/
theorem alike_storeStep {step step' : Step} (h : step.Alike step') :
    Act.Alike Alike Whatever Whatever (storeStep step) (storeStep step') := by
  have hread (answer : StoreSession → Answer) : Act.Alike Alike Whatever Whatever
      (Act.get >>= fun f => Act.pure (answer f)) (Act.get >>= fun f => Act.pure (answer f)) :=
    Act.Alike.get.bind fun _ _ _ => Act.Alike.pure trivial
  have hwrite {act : Act (Store Nat) Unit} (hact : Act.Alike (Store.AlikeWith Eq) Eq Eq act act) :
      Act.Alike Alike Whatever Whatever (thenItself (onStore act)) (thenItself (onStore act)) :=
    alike_thenItself (alike_onStore hact)
  cases h with
  | set hsetter hv => exact alike_set (Or.inr ⟨_, hsetter, hv⟩)
  | insert hv => exact alike_thenItself (alike_insert hv)
  | entryWith hv => exact alike_entryWith hv
  | extend hpairs => exact alike_extend hpairs
  | idToken hsource => exact alike_idToken hsource
  | token _ => exact Act.Alike.fail trivial
  | tokenSet _ => exact Act.Alike.fail trivial
  | handleInsert _ => exact Act.Alike.fail trivial
  | same step =>
    cases step with
    | set setter v => exact alike_set (Or.inl rfl)
    | insert name v => exact alike_thenItself (alike_insert fun _ _ => rfl)
    | entryWith name v => exact alike_entryWith fun _ _ => rfl
    | extend pairs => exact alike_extend (List.forall₂_same.mpr fun _ _ => ⟨rfl, fun _ _ => rfl⟩)
    | idToken source room => exact alike_idToken (.refl _)
    | get p => exact Act.Alike.same_bind fun _ => hread _
    | getOrElse p => exact Act.Alike.same_bind fun p => alike_answer (fun _ _ hf => hf.store.get p) .text
    | contains p => exact Act.Alike.same_bind fun _ => hread _
    | remove p => exact alike_thenItself (Act.Alike.same_bind fun p => alike_onStore (Store.alike_remove p))
    | containsKey wireName => exact hread _
    | addScope s => exact hwrite (Store.alike_changeScopes _)
    | removeScope s => exact hwrite (Store.alike_changeScopes _)
    | containsScope s => exact hread _
    | extendScopes v => exact alike_thenItself (Act.Alike.same_bind fun _ => alike_onStore (Store.alike_changeScopes _))
    | scopes => exact hread _
    | joinScopes sep => exact hread _
    | clearScopes => exact hwrite (Store.alike_changeScopes _)
    | legacyAuthority => exact hwrite (Store.alike_setEndpoints _)
    | generatePkce =>
      refine alike_thenItself (alike_draw.bind fun octets octets' hoctets => ?_)
      obtain ⟨hverifier, hchallenge⟩ := Pkce.alike_ofOctets hoctets
      exact alike_onStore (Store.alike_setPkce hverifier hchallenge)
    | describe => exact hread _
    | tenant v => exact hwrite (Store.alike_setEndpoints _)
    | authority host v =>
      exact alike_thenItself (Act.Alike.same_bind fun _ => alike_onStore (Store.alike_setEndpoints _))
    | adminConsent host v =>
      exact alike_thenItself (Act.Alike.same_bind fun _ => alike_onStore (Store.alike_setEndpoints _))
    | _ => exact Act.Alike.fail trivial

/-- Steps that build requests from the current store or read its refresh token, and all before. -/
theorem alike_requestStep {step step' : Step} (h : step.Alike step') :
    Act.Alike Alike Whatever Whatever (requestStep step) (requestStep step') := by
  have hbefore := alike_storeStep h
  -- an act on what was built from the current stores
  have hbuild {α : Type} {Q : α → α → Prop} {act : Act (Store Token) α} (answer : α → Answer)
      (hact : Act.Alike (Store.AlikeWith Token.Alike) Eq Q act act) :
      Act.Alike Alike Whatever Whatever (onResolved act >>= fun a => Act.pure (answer a))
        (onResolved act >>= fun a => Act.pure (answer a)) :=
    (alike_onResolved hact).bind fun _ _ _ => Act.Alike.pure trivial
  cases h with
  | same step =>
    cases step with
    | refreshToken => exact alike_answer (fun _ _ hf => hf.resolved.refreshToken) .text
    | prepare g ph =>
      exact Act.Alike.same_bind fun g => Act.Alike.same_bind fun ph => hbuild .rules (Store.alike_prepare g ph)
    | encodeQuery required optional =>
      exact Act.Alike.same_bind fun required => Act.Alike.same_bind fun optional =>
        alike_answer (fun _ _ hf => hf.resolved.encodeQuery required optional) .text
    | formParams required optional =>
      exact Act.Alike.same_bind fun required => Act.Alike.same_bind fun optional =>
        alike_answer (fun _ _ hf => hf.resolved.formParams required optional) .pairs
    | authorizationUrl g => exact Act.Alike.same_bind fun g => hbuild .text (Store.alike_authorizationUrl g)
    | formRequest g ph =>
      exact Act.Alike.same_bind fun g => Act.Alike.same_bind fun ph => hbuild .form (Store.alike_formRequest g ph)
    | encodeUri g ph =>
      exact Act.Alike.same_bind fun g => Act.Alike.same_bind fun ph => hbuild .text (Store.alike_encodeUri g ph)
    | _ => exact hbefore
  | _ => exact hbefore

/-- Making a token and keeping it under a name. -/
theorem alike_token {name : String} {data data' : Json}
    (h : ResultAlike Whatever Token.Alike (Token.draftOfJson data) (Token.draftOfJson data')) :
    Act.Alike Alike Whatever Whatever (tokenStep (.token name data)) (tokenStep (.token name data')) := by
  refine Act.Alike.get.bind fun f f' hf => ?_
  refine Act.Alike.bind (Q := Token.Alike) (Act.Alike.ofExcept ?_) fun t t' ht => ?_
  · rw [hf.supply.now]
    exact Token.alike_ofJson h f'.supply.now
  · refine Act.Alike.bind (Q := Eq) (Act.Alike.modify fun g g' hg => ?_) fun _ _ _ => Act.Alike.pure trivial
    refine { hg.addToken ht with tokenNames := ?_ }
    dsimp only
    rw [hg.tokens.length_eq, hg.tokenNames]

/-- Setting an attribute of a token by name. -/
theorem alike_tokenSet {name field : String} {v v' : Json} (h : hideValue field v = hideValue field v') :
    Act.Alike Alike Whatever Whatever (tokenStep (.tokenSet name field v)) (tokenStep (.tokenSet name field v')) := by
  unfold tokenStep
  refine alike_onToken name fun now => ?_
  refine (Token.alike_setAttribute h now).anyFault.bind fun _ _ _ => ?_
  exact Act.Alike.get.bind fun _ _ _ => Act.Alike.pure trivial

/-- Steps that keep or use a token, and all before. -/
theorem alike_tokenStep {step step' : Step} (h : step.Alike step') :
    Act.Alike Alike Whatever Whatever (tokenStep step) (tokenStep step') := by
  have hbefore := alike_requestStep h
  cases h with
  | token hdata => exact alike_token hdata
  | tokenSet hv => exact alike_tokenSet hv
  | same step =>
    cases step with
    | token name data => exact alike_token (.refl _)
    | tokenSet name field v => exact alike_tokenSet rfl
    | acceptToken name =>
      refine alike_thenItself (Act.Alike.get.bind fun f f' hf => ?_)
      rw [hf.tokenNames]
      refine Act.Alike.same_bind fun place => alike_onStore (Store.alike_acceptToken rfl ?_)
      rcases option_rel_cases (getElem?_alike hf.tokens place) with ⟨hs, hs'⟩ | ⟨t, t', hs, hs', ht⟩
      · rw [hs, hs']
      · rw [hs, hs']
        exact ht.refreshToken?
    | currentToken => exact Act.Alike.get.bind fun _ _ _ => Act.Alike.pure trivial
    | _ => exact hbefore
  | _ => exact hbefore

/-- Setting a parameter of a handle by its name. -/
theorem alike_handleInsert {handle : String} {name v v' : Json} (h : ValueAlike name v v') :
    Act.Alike Alike Whatever Whatever (perform (.handleInsert handle name v)) (perform (.handleInsert handle name v')) := by
  refine Act.Alike.get.bind fun f f' hf => (Act.Alike.ofExcept (named_alike hf.handles handle)).bind fun d d' hd => ?_
  cases hp : parameter name with
  | error fault => exact Act.Alike.fail trivial
  | ok p =>
    have hinsert : Act.Alike (Store.AlikeWith Token.Alike) Whatever Eq (Store.insert p v.display) (Store.insert p v'.display) :=
      (Store.alike_insert (h p hp)).anyFault
    refine (hinsert.within (fun _ _ _ => hd.store) fun s s' g g' hs hg => ?_).bind fun _ _ _ => Act.Alike.pure trivial
    exact { hg with handles := .cons ⟨rfl, { hd with store := hs }⟩ hg.handles }

/-- Steps that are alike run alike. -/
theorem alike_perform {step step' : Step} (h : step.Alike step') :
    Act.Alike Alike Whatever Whatever (perform step) (perform step') := by
  have hbefore := alike_tokenStep h
  cases h with
  | handleInsert hv => exact alike_handleInsert hv
  | same step =>
    cases step with
    | save name => exact (Act.Alike.modify fun _ _ hf => hf.saveAs name).bind fun _ _ _ => Act.Alike.pure trivial
    | restore name =>
      refine Act.Alike.get.bind fun f f' hf => ?_
      rw [hf.saved]
      refine Act.Alike.same_bind fun place => ?_
      exact (Act.Alike.modify fun _ _ hf => { hf with current := rfl }).bind fun _ _ _ => Act.Alike.pure trivial
    | handle name choice nonblocking =>
      refine Act.Alike.get.bind fun f f' hf => ?_
      rw [Handle.select?, Handle.select?]
      cases Handle.choices.lookup choice with
      | none => exact Act.Alike.fail trivial
      | some offer =>
        refine Act.Alike.bind (Q := Eq) (Act.Alike.modify fun g g' hg => ?_) fun _ _ _ => Act.Alike.pure trivial
        exact { hg with handles := .cons ⟨rfl, rfl, rfl, rfl, hf.resolved⟩ hg.handles }
    | handleInsert handle name v => exact alike_handleInsert fun _ _ => rfl
    | handleCall name call keepAs =>
      refine Act.Alike.get.bind fun f f' hf => (Act.Alike.ofExcept (named_alike hf.handles name)).bind fun d d' hd => ?_
      cases Handle.Call.ofName? call with
      | none => exact Act.Alike.fail trivial
      | some c =>
        refine (Handle.alike_call hd c).anyFault.bind fun answer answer' hanswer => ?_
        cases hanswer with
        | url _ _ => exact Act.Alike.pure trivial
        | request hr =>
          cases keepAs with
          | none => exact (Act.Alike.pure (Q := Eq) rfl).bind fun _ _ _ => Act.Alike.pure trivial
          | some keepAs =>
            refine Act.Alike.bind (Q := Eq) (Act.Alike.modify fun g g' hg => ?_) fun _ _ _ => Act.Alike.pure trivial
            exact { hg with requests := .cons ⟨rfl, hr⟩ hg.requests }
    | send name timeout delivery =>
      refine Act.Alike.get.bind fun f f' hf => (Act.Alike.ofExcept (named_alike hf.requests name)).bind fun r r' hr => ?_
      rw [hf.supply.now]
      exact (alike_send f'.supply.now timeout delivery hr).anyFault.bind fun _ _ _ => Act.Alike.pure trivial
    | openIn name browser =>
      refine Act.Alike.get.bind fun f f' hf => (Act.Alike.ofExcept (named_alike hf.requests name)).bind fun r r' hr => ?_
      exact (alike_openIn browser hr).anyFault.bind fun _ _ _ => Act.Alike.pure trivial
    | _ => exact hbefore
  | _ => exact hbefore

/-! ## Runs that are alike -/

/-- Two events are alike. -/
inductive Event.Alike : Event → Event → Prop where
  | step {s s' : Step} (h : s.Alike s') : Alike (.step s) (.step s')
  | clock (now : Instant) : Alike (.clock now) (.clock now)

/-- What an event tells the log. -/
def Event.records (f : StoreSession) : Event → List Log.Record
  | .step s => (perform s f).records
  | .clock _ => []

/-- What some events tell the log, in order. -/
def told (f : StoreSession) : List Event → List Log.Record
  | [] => []
  | e :: events => e.records f ++ told (e.apply f) events

/-- The beginning of a session: with an empty store, or with one that takes over settings where they are given. -/
def opening (settings : Option Settings) (supply : Supply) : Run StoreSession Unit :=
  match settings with
  | none => ⟨.ok (), { supply }, []⟩
  | some s => onStore s.apply { supply }

/-- Sessions begin alike with settings and supplies that are alike. -/
theorem alike_opening {settings settings' : Option Settings} (hsettings : Option.Rel Settings.Alike settings settings')
    {supply supply' : Supply} (hsupply : supply.Alike supply') :
    Run.Alike Alike Whatever Eq (opening settings supply) (opening settings' supply') := by
  have hempty : Alike { supply } { supply := supply' } :=
    ⟨.nil, rfl, .cons ⟨.refl _, .none⟩ .nil, rfl, rfl, .nil, .nil, hsupply⟩
  cases hsettings with
  | none => exact ⟨rfl, hempty, .ok rfl⟩
  | some hs => exact alike_onStore (Store.alike_settings hs) _ _ hempty

variable {f f' : StoreSession}

/-- Events that are alike tell the log the same and keep sessions alike. -/
theorem Event.Alike.apply {e e' : Event} (he : e.Alike e') (hf : f.Alike f') :
    e.records f = e'.records f' ∧ (e.apply f).Alike (e'.apply f') := by
  cases he with
  | step h =>
    obtain ⟨hrecords, hstate, _⟩ := alike_perform h f f' hf
    exact ⟨hrecords, hstate⟩
  | clock now => exact ⟨rfl, { hf with supply := { hf.supply with now := rfl } }⟩

/-- Rows of events that are alike tell the log the same and keep sessions alike. -/
theorem alike_play {events events' : List Event} (hevents : List.Forall₂ Event.Alike events events') (hf : f.Alike f') :
    f.told events = f'.told events' ∧ (f.play events).Alike (f'.play events') := by
  induction hevents generalizing f f' with
  | nil => exact ⟨rfl, hf⟩
  | cons he _ ih =>
    obtain ⟨hrecords, hstate⟩ := he.apply hf
    obtain ⟨htold, hplay⟩ := ih hstate
    exact ⟨by rw [told, told, hrecords, htold], hplay⟩

/-- The descriptions of the current store, of all stores, and of the stores of the handles by their names. -/
def descriptions (f : StoreSession) : String × List String × List (String × String) :=
  (f.store.describe, f.stores.map Store.describe, f.handles.map fun h => (h.1, h.2.store.describe))

/-- Sessions that are alike have the same descriptions. -/
theorem Alike.descriptions (hf : f.Alike f') : f.descriptions = f'.descriptions := by
  have hstores : f.stores.map Store.describe = f'.stores.map Store.describe :=
    List.forall₂_eq_eq_eq ▸ List.rel_map (P := Eq) (fun _ _ hs => hs.describe) hf.stores
  have hhandles : f.handles.map (fun h => (h.1, h.2.store.describe)) = f'.handles.map fun h => (h.1, h.2.store.describe) :=
    List.forall₂_eq_eq_eq ▸ List.rel_map (P := Eq) (fun _ _ hh => Prod.ext hh.1 hh.2.store.describe) hf.handles
  rw [StoreSession.descriptions, StoreSession.descriptions, hf.store.describe, hstores, hhandles]

/-- A session from its beginning through some events: what it has come to, and all that the log was told. -/
def history (settings : Option Settings) (supply : Supply) (events : List Event) : StoreSession × List Log.Record :=
  let start := opening settings supply
  (start.state.play events, start.records ++ start.state.told events)

/-- Two sessions that begin with settings and go on with events that differ in the values of secrets only tell the log the same, from
their beginning to their end and up to every event, and after every event their descriptions are the same. What differs may be any
values of secrets, those that tokens and id tokens bring and those that are drawn at random included, as long as both are empty or
neither is. -/
theorem secrets_stay_hidden {settings settings' : Option Settings} (hsettings : Option.Rel Settings.Alike settings settings')
    {supply supply' : Supply} (hsupply : supply.Alike supply') {events events' : List Event}
    (hevents : List.Forall₂ Event.Alike events events') :
    (history settings supply events).2 = (history settings' supply' events').2 ∧
      ∀ n, (history settings supply (events.take n)).2 = (history settings' supply' (events'.take n)).2 ∧
        (history settings supply (events.take n)).1.descriptions = (history settings' supply' (events'.take n)).1.descriptions := by
  obtain ⟨hrecords, hstate, _⟩ := alike_opening hsettings hsupply
  have hrun {events events' : List Event} (hevents : List.Forall₂ Event.Alike events events') :
      (history settings supply events).2 = (history settings' supply' events').2 ∧
        (history settings supply events).1.Alike (history settings' supply' events').1 := by
    obtain ⟨htold, hplay⟩ := alike_play hevents hstate
    exact ⟨congrArg₂ (· ++ ·) hrecords htold, hplay⟩
  refine ⟨(hrun hevents).1, fun n => ?_⟩
  obtain ⟨htold, hplay⟩ := hrun (List.forall₂_take n hevents)
  exact ⟨htold, hplay.descriptions⟩

/-- The settings of a client with a name and a secret. -/
def clientSettings (clientId clientSecret : String) : Settings :=
  { clientId := some clientId, clientSecret := some clientSecret, redirectUri := none, tenant := commonAuthority, cloud := .global,
    timeout := .ofInt 30, logLevel := "INFO" }

/-- A client that comes back from a sign-in with a code, takes a token and asks for a fresh one, which the network does not
bring. -/
def renewal (code refresh : String) : List Event :=
  [.step (.idToken (.values (.str code) (.str code) (.str "here") .null)), .step (.addScope "mail"),
    .step (.token "first" (.obj [("access_token", .str refresh), ("token_type", .str "Bearer"), ("expires_in", .int 60),
      ("refresh_token", .str refresh)])),
    .step (.acceptToken "first"), .step (.handle "exchange" "authorization_code_grant" false),
    .step (.handleCall "exchange" "refresh_token" (some "fresh")), .clock 5,
    .step (.send "fresh" (.ofInt 30) (.fault "ConnectTimeout" "too late"))]

/-- The history of a client that asks for a fresh token. -/
def renewed (clientId clientSecret code refresh : String) : StoreSession × List Log.Record :=
  history (some (clientSettings clientId clientSecret)) { now := 0, random := fun _ => [] } (renewal code refresh)

set_option maxRecDepth 10000 in
/-- Two clients whose names, secrets, codes and tokens all differ. -/
theorem secrets_stay_hidden_renewal :
    (renewed "app" "key" "code" "refresh").2 = (renewed "other" "secret" "other code" "other token").2 ∧
      (renewed "app" "key" "code" "refresh").2.length = 12 ∧
      (renewed "app" "key" "code" "refresh").1.descriptions = (renewed "other" "secret" "other code" "other token").1.descriptions ∧
      (renewed "app" "key" "code" "refresh").1.store.values .refreshToken = some "refresh" ∧
      (renewed "other" "secret" "other code" "other token").1.store.values .refreshToken = some "other token" := by
  have hsettings : Option.Rel Settings.Alike (some (clientSettings "app" "key")) (some (clientSettings "other" "secret")) :=
    .some ⟨rfl, rfl, rfl, rfl, rfl⟩
  have hsupply : Supply.Alike { now := 0, random := fun _ => [] } { now := 0, random := fun _ => [] } :=
    ⟨rfl, rfl, fun _ => Iff.rfl⟩
  have hevents : List.Forall₂ Event.Alike (renewal "code" "refresh") (renewal "other code" "other token") :=
    .cons (.step (.idToken (IdToken.alike_ofValues (by rfl) (by rfl) _ _))) <| .cons (.step (.same _)) <|
    .cons (.step (.token (Token.draftOfJson_alike (by rfl)).anyFault)) <|
    .cons (.step (.same _)) <| .cons (.step (.same _)) <| .cons (.step (.same _)) <| .cons (.clock 5) <|
    .cons (.step (.same _)) .nil
  obtain ⟨htold, hafter⟩ := secrets_stay_hidden hsettings hsupply hevents
  exact ⟨htold, by rfl, (hafter 8).2, by rfl, by rfl⟩

end OAuthClient.StoreSession
