import ConnectionPool.Proofs.Conduct
import ConnectionPool.Proofs.Gathering

set_option autoImplicit false

/-! # The settings stay valid

Settings are checked in three places: when a pool is made, when it is given another cap, and when it
is given another statement to probe with. Each place has a check of its own, and some settings are
changed without any. All of them agree with the one check of whole settings (`Settings.approve`): a
change is accepted if the changed settings would be, and is otherwise refused with the same words
(`Setter.write_eq_approve`). That relies on the settings that the pool has already, which must be
valid for a check of one of them to be enough. A builder checks nothing while it is told settings,
and is held to the last word on each of them (`Builder.flaw?_ofRequests`).

Nothing but a setter writes the settings of a pool (`Task.settings_of_step`, `Adjustment.settings`),
so the settings of every pool are valid at all times (`Run.valid`). -/

namespace ConnectionPool

/-- What comes of asking for settings: whatever is `made` under them, unless they have a flaw. -/
def Settings.approve {α : Type} (settings : Settings) (made : α) : Except Error α :=
  match settings.flaw? with
  | some flaw => .error (.invalidSettings flaw.message)
  | none => .ok made

namespace Settings

variable {α : Type} {settings : Settings} {made : α}

theorem approve_eq_ok {made' : α} (h : settings.approve made = .ok made') :
    settings.Valid ∧ made' = made := by
  unfold approve at h
  split at h
  · cases h
  · next flawless =>
    cases h
    exact ⟨(flaw?_eq_none_iff settings).1 flawless, rfl⟩

end Settings

/-! ## Setters -/

/-- A change of the settings of a pool that is in use. -/
inductive Setter where
  | maxConnections (count : UInt32)
  | acquireTimeout (timeout : Duration)
  | heartbeatInterval (interval : Duration)
  | heartbeatQuery (text : String)
  deriving DecidableEq, Repr

namespace Setter

variable {S : Type} {p p' : Pool S}

/-- The one setting that is changed. -/
def change : Setter → Settings.Change
  | maxConnections count => .maxConnections count
  | acquireTimeout timeout => .acquireTimeout timeout
  | heartbeatInterval interval => .heartbeatInterval interval
  | heartbeatQuery text => .heartbeatQuery text

/-- What the pool makes of it. -/
def write (p : Pool S) : Setter → Except Error (Pool S)
  | maxConnections count => p.setMaxConnections count
  | acquireTimeout timeout => .ok (p.setAcquireTimeout timeout)
  | heartbeatInterval interval => .ok (p.setHeartbeatInterval interval)
  | heartbeatQuery text => p.setHeartbeatQuery text

/-- The settings of the pool after the setter, checked or not. -/
def result (p : Pool S) (x : Setter) : Settings := p.settings.change x.change

/-- What is wrong with the new value, whatever the other settings are. -/
def flaw? : Setter → Option Settings.Flaw
  | maxConnections count => if count = 0 then some .noCapacity else none
  | heartbeatQuery text => if Text.isBlank text then some .blankQuery else none
  | acquireTimeout _ | heartbeatInterval _ => none

/-- Where settings are valid, they can only become flawed by what is wrong with the new value. -/
theorem flaw?_result (valid : p.settings.Valid) (x : Setter) : (x.result p).flaw? = x.flaw? := by
  have query := valid.query
  have tick := valid.tick
  have busyTick := valid.busyTick
  have shutdownPoll := valid.shutdownPoll
  cases x with
  | maxConnections count =>
    simp [result, change, Settings.change, Settings.flaw?, flaw?, query, tick,
      busyTick, shutdownPoll]
  | _ =>
    simp [result, change, Settings.change, Settings.flaw?, flaw?, valid.capacity, query, tick,
      busyTick, shutdownPoll]

/-- Where settings are valid, checking the one that changes is as good as checking them all. -/
theorem write_eq_approve (valid : p.settings.Valid) (x : Setter) :
    x.write p = (x.result p).approve { p with settings := x.result p } := by
  rw [Settings.approve, flaw?_result valid]
  cases x with
  | maxConnections count =>
    by_cases none : count = 0
    · simp [write, Pool.setMaxConnections, flaw?, none]
    · simp [write, Pool.setMaxConnections, flaw?, none, result, change, Settings.change]
  | heartbeatQuery text =>
    by_cases blank : Text.isBlank text = true
    · simp [write, Pool.setHeartbeatQuery, flaw?, blank]
    · simp [write, Pool.setHeartbeatQuery, flaw?, blank, result, change, Settings.change]
  | acquireTimeout | heartbeatInterval => rfl

theorem valid_of_write {x : Setter} (valid : p.settings.Valid) (h : x.write p = .ok p') :
    p'.settings.Valid := by
  rw [write_eq_approve valid] at h
  obtain ⟨valid', rfl⟩ := Settings.approve_eq_ok h
  exact valid'

end Setter

/-! ## Making pools -/

section

variable {S : Type} {p : Pool S} {now : Instant}

theorem Pool.new_eq_approve (settings : Settings) :
    (Pool.new settings now : Except Error (Pool S)) =
      settings.approve { settings, createdAt := now } := rfl

theorem Builder.build_eq_approve (b : Builder) :
    (b.build now : Except Error (Pool S)) =
      b.settings.approve { settings := b.settings, source := b.source, createdAt := now } := by
  unfold build
  rw [Pool.new_eq_approve]
  cases flawed : b.settings.flaw? <;> simp [Settings.approve, flawed]

theorem Builder.valid_of_build {b : Builder} (made : b.build now = .ok p) : p.settings.Valid := by
  rw [build_eq_approve] at made
  obtain ⟨valid, rfl⟩ := Settings.approve_eq_ok made
  exact valid

end

/-! ## Who writes the settings -/

open Interleaving (Task Adjustment)

variable {S : Type} {v : View S} {p p' : Pool S}

namespace Pool

variable {now : Instant}

theorem settings_lend {cap : UInt32} {decision : Decision S} (h : p.lend cap now = (p', decision)) :
    p'.settings = p.settings := by
  cases decision with
  | reuse loan =>
    obtain ⟨key, record, -, -, -, rfl⟩ := lend_eq_reuse h
    rfl
  | reserve =>
    obtain ⟨-, rfl⟩ := lend_eq_reserve h
    rfl
  | full => rw [eq_of_lend_full h]

theorem settings_install (loan : Record S) : (p.install loan).1.settings = p.settings := by
  unfold install
  split <;> rfl

theorem settings_takeBack {key : SessionKey} {connected : S → Bool} {rejected : Option S}
    (h : p.takeBack key connected now = some (p', rejected)) : p'.settings = p.settings := by
  obtain ⟨record, idle, -, rfl, -⟩ := takeBack_eq_some h
  rfl

theorem settings_letGo {key : SessionKey} (h : p.letGo key = some p') :
    p'.settings = p.settings := by
  obtain ⟨record, -, rfl⟩ := letGo_eq_some h
  rfl

end Pool

theorem Acquire.settings_of_step {a a' : Acquire S} (h : a.step v p = some (p', a')) :
    p'.settings = p.settings := by
  cases a with
  | choose patience epoch cap =>
    cases decided : p.lend cap v.now with
    | mk lent decision =>
      simp only [step, decided] at h
      cases h
      exact Pool.settings_lend decided
  | wait patience epoch =>
    simp only [step] at h
    split at h
    · cases h
      rfl
    · split at h <;> cases h
      rfl
  | install loan =>
    cases h
    exact Pool.settings_install loan
  | create | openNew | closeUnused | done => cases h
  | _ =>
    cases h
    rfl

theorem Release.settings_of_step {r r' : Release S} (h : r.step v p = some (p', r')) :
    p'.settings = p.settings := by
  cases r with
  | takeBack key =>
    simp only [step] at h
    split at h
    · cases h
      rfl
    · next taken =>
      cases h
      exact Pool.settings_takeBack taken
    · next taken =>
      cases h
      exact Pool.settings_takeBack taken
  | close | done => cases h
  | _ =>
    cases h
    rfl

theorem Detach.settings_of_step {d d' : Detach} (h : d.step v p = some (p', d')) :
    p'.settings = p.settings := by
  cases d with
  | letGo key =>
    simp only [step] at h
    split at h
    · cases h
      rfl
    · next taken =>
      cases h
      exact Pool.settings_letGo taken
  | announce =>
    cases h
    rfl
  | done => cases h

theorem Heartbeat.settings_of_step {b b' : Heartbeat S} (h : b.step v p = some (p', b')) :
    p'.settings = p.settings := by
  cases b with
  | select interval statement =>
    simp only [step] at h
    split at h
    · cases h
      rfl
    · split at h <;> cases h <;> rfl
  | probe statement todo verdicts =>
    cases todo <;> cases h
    rfl
  | credit todo verdicts =>
    cases todo <;> cases h
    · rfl
    · split <;> rfl
  | evict verdicts evicted todo =>
    cases todo <;> cases h
    rfl
  | done => cases h
  | _ =>
    cases h
    rfl

/-- Changing the cap is the one operation that writes a setting, and it does so in one step. -/
theorem Resize.settings_of_step {c c' : Resize} (h : c.step v p = some (p', c')) :
    p'.settings = p.settings ∨ ∃ count, c = .write count ∧
      (Setter.maxConnections count).write p = .ok p' := by
  cases c with
  | write count =>
    simp only [step] at h
    split at h
    · next set =>
      cases h
      exact .inr ⟨count, rfl, set⟩
    · cases h
      exact .inl rfl
  | announce =>
    cases h
    exact .inl rfl
  | done => cases h

theorem Worker.settings_of_step {w w' : Worker S} (h : w.step v p = some (p', w')) :
    p'.settings = p.settings := by
  cases w with
  | asleep until? =>
    simp only [step] at h
    split at h
    · cases h
      rfl
    · split at h <;> cases h
      rfl
  | cycle nominal busy heartbeat =>
    rcases cycle_of_step h with ⟨outcome, -, rfl, -⟩ | ⟨b, did, -⟩
    · rfl
    · exact Heartbeat.settings_of_step did
  | done => cases h
  | _ =>
    cases h
    rfl

theorem Return.settings_of_step {r r' : Return S} (h : r.step v p = some (p', r')) :
    p'.settings = p.settings := by
  cases r with
  | reach session key =>
    cases h
    rfl
  | release r =>
    rcases release_of_step h with ⟨outcome, -, rfl, -⟩ | ⟨u, did, -⟩
    · rfl
    · exact Release.settings_of_step did
  | close | done => cases h

theorem Surrender.settings_of_step {d d' : Surrender S} (h : d.step v p = some (p', d')) :
    p'.settings = p.settings := by
  cases d with
  | reach session key =>
    cases h
    rfl
  | detach session d =>
    rcases detach_of_step h with ⟨outcome, -, rfl, -⟩ | ⟨u, did, -⟩
    · rfl
    · exact Detach.settings_of_step did
  | done => cases h

theorem Transfer.settings_of_step {t t' : Transfer S} (h : t.step v p = some (p', t')) :
    p'.settings = p.settings := by
  cases steps_of_step h with
  | giving around did => exact Return.settings_of_step did
  | _ => rfl

theorem Shutdown.settings_of_step {d d' : Shutdown S} (h : d.step v p = some (p', d')) :
    p'.settings = p.settings := by
  cases d with
  | awaitFirst =>
    simp only [step] at h
    split at h <;> cases h
    rfl
  | awaitWorker =>
    simp only [step] at h
    split at h
    · cases h
      rfl
    · split at h <;> cases h
      rfl
  | asleep =>
    simp only [step] at h
    split at h <;> cases h
    rfl
  | closeIdle n todo =>
    cases todo <;> cases h
    rfl
  | done => cases h
  | _ =>
    cases h
    rfl

namespace Interleaving

/-- A step of a call leaves the settings as they are, unless it gives the pool another cap. -/
theorem Task.settings_of_step {t t' : Task S} (h : t.step v p = some (p', t')) :
    p'.settings = p.settings ∨
      ∃ count, t = .resize (.write count) ∧ (Setter.maxConnections count).write p = .ok p' := by
  cases t with
  | acquire a =>
    obtain ⟨u, did, -⟩ := exists_of_map_step h
    exact .inl (Acquire.settings_of_step did)
  | giveBack kept r =>
    obtain ⟨u, did, -⟩ := exists_of_map_step h
    exact .inl (Return.settings_of_step did)
  | transfer t =>
    obtain ⟨u, did, -⟩ := exists_of_map_step h
    exact .inl (Transfer.settings_of_step did)
  | surrender d =>
    obtain ⟨u, did, -⟩ := exists_of_map_step h
    exact .inl (Surrender.settings_of_step did)
  | cycle b =>
    obtain ⟨u, did, -⟩ := exists_of_map_step h
    exact .inl (Heartbeat.settings_of_step did)
  | work w =>
    obtain ⟨u, did, -⟩ := exists_of_map_step h
    exact .inl (Worker.settings_of_step did)
  | resize c =>
    obtain ⟨u, did, -⟩ := exists_of_map_step h
    rcases Resize.settings_of_step did with same | ⟨count, rfl, written⟩
    · exact .inl same
    · exact .inr ⟨count, rfl, written⟩
  | shutDown d | drop d =>
    obtain ⟨u, did, -⟩ := exists_of_map_step h
    exact .inl (Shutdown.settings_of_step did)
  | returned => cases h

/-- The setter that a change made in one go is, if it is one. -/
def Adjustment.setter? : Adjustment → Option Setter
  | acquireTimeout d => some (.acquireTimeout d)
  | heartbeatInterval d => some (.heartbeatInterval d)
  | heartbeatQuery text => some (.heartbeatQuery text)
  | source _ | resetHeartbeats => none

/-- A refused change leaves everything as it was. -/
theorem Adjustment.apply_of_setter {change : Adjustment} {x : Setter}
    (is : change.setter? = some x) : change.apply p = (x.write p).toOption.getD p := by
  cases change with
  | acquireTimeout | heartbeatInterval =>
    cases is
    rfl
  | heartbeatQuery text =>
    cases is
    simp only [apply, Setter.write]
    cases p.setHeartbeatQuery text <;> rfl
  | source | resetHeartbeats => cases is

/-- What is changed in one go leaves the settings as they are, unless it is a setter that is
accepted. -/
theorem Adjustment.settings (change : Adjustment) :
    (change.apply p).settings = p.settings ∨
      ∃ x, change.setter? = some x ∧ x.write p = .ok (change.apply p) := by
  cases is : change.setter? with
  | none =>
    cases change with
    | source | resetHeartbeats => exact .inl rfl
    | acquireTimeout | heartbeatInterval | heartbeatQuery => cases is
  | some x =>
    rw [apply_of_setter is]
    cases written : x.write p with
    | ok q => exact .inr ⟨x, rfl, written⟩
    | error e => exact .inl rfl

/-! ## Every choice -/

variable {home : PoolId} {past since : List (State S × Choice S)} {s s' s₁ s₂ : State S}
  {c : Choice S} {i : Nat} {call : Call S}

/-- A choice by which a setter takes effect on a pool. -/
inductive Sets (s : State S) (home : PoolId) : Choice S → Setter → Prop
  | adjust {change : Adjustment} {x : Setter} (is : change.setter? = some x) :
      Sets s home (.adjust home change) x
  | step {i : Nat} {connected : S → Bool} {contended : Bool} {call : Call S} {count : UInt32}
      (was : s.calls[i]? = some call) (at_ : call.home = home)
      (task : call.task = .resize (.write count)) :
      Sets s home (.step i connected contended) (.maxConnections count)

/-- The settings of a pool stay as they are, unless a setter is accepted. -/
theorem settings_of_act (act : s.act c = some s') (built : s.pool? home = some p) :
    ∃ p', s'.pool? home = some p' ∧
      (p'.settings = p.settings ∨ ∃ x, Sets s home c x ∧ x.write p = .ok p') := by
  obtain ⟨p', built', alters⟩ := alters_of_act act built
  refine ⟨p', built', ?_⟩
  cases alters with
  | rests => exact .inl rfl
  | @adjusts change =>
    refine change.settings.imp_right fun ⟨x, is, written⟩ => ?_
    exact ⟨x, .adjust is, written⟩
  | works was at_ did =>
    refine (Task.settings_of_step did).imp_right fun ⟨count, task, written⟩ => ?_
    exact ⟨.maxConnections count, .step was at_ task, written⟩

/-- The settings of every pool are valid at all times. -/
theorem Run.valid (run : Run past s) (built : s.pool? home = some p) : p.settings.Valid := by
  refine run.pool_induction (motive := fun _ _ p => p.settings.Valid) ?new ?next built
  case new =>
    intro past s s' p c run act old built
    obtain ⟨builder, made, -, -⟩ := exists_build act old built
    exact Builder.valid_of_build made
  case next =>
    intro past s s' p p' c run fresh act built built' valid
    obtain ⟨q, is, same | ⟨x, -, written⟩⟩ := settings_of_act act built
    · cases built'.symm.trans is
      exact same ▸ valid
    · cases built'.symm.trans is
      exact Setter.valid_of_write valid written

/-! ## Changing the cap -/

/-- What a call that asks for another cap has done by the time that it has come to a phase, the
latest first. -/
inductive Resized (count : UInt32) : List (Pool S × Pool S) → Task S → Prop
  | begun : Resized count [] (.resize (.write count))
  /-- The cap is refused, and nothing was changed. -/
  | refused {p : Pool S} (zero : count = 0) : Resized count [(p, p)]
      (.resize (.done (.error (.invalidSettings Settings.Flaw.noCapacity.message))))
  /-- The cap was written, and nothing else. -/
  | written {p : Pool S} (positive : count ≠ 0) :
      Resized count [(p, { p with settings := p.settings.change (.maxConnections count) })]
        (.resize .announce)
  /-- After that those who wait were told, and nothing else has happened. -/
  | announced {p q : Pool S} (positive : count ≠ 0) :
      Resized count
        [(q, q.notify), (p, { p with settings := p.settings.change (.maxConnections count) })]
        (.resize (.done (.value ())))
  | returned {es : List (Pool S × Pool S)} {t : Task S} (before : Resized count es t)
      (ended : t.isEnded = true) : Resized count es .returned

section

variable {count : UInt32} {es : List (Pool S × Pool S)} {ms : List (Move S)} {t t' : Task S}

theorem Resized.step (before : Resized count es t) (did : t.step v p = some (p', t')) :
    Resized count ((p, p') :: es) t' := by
  cases before with
  | begun =>
    obtain ⟨u, wrote, rfl⟩ := exists_of_map_step did
    by_cases zero : count = 0
    · simp only [Resize.step, Pool.setMaxConnections, zero, if_true] at wrote
      cases wrote
      exact .refused zero
    · simp only [Resize.step, Pool.setMaxConnections, zero, if_false] at wrote
      cases wrote
      exact .written zero
  | written positive =>
    cases did
    exact .announced positive
  | refused | announced | returned => cases did

/-- Changing the cap asks nobody anything. -/
theorem Resized.not_answer (before : Resized count es t) (reply : Reply S) :
    t.answer reply = none := by
  induction before with
  | returned => rfl
  | _ => rfl

theorem Course.resized (course : Course (.resize (.write count)) ms t) :
    Resized count (effects ms) t := by
  induction course with
  | here => exact .begun
  | step course did ih => exact ih.step did
  | hear course did learned ih =>
    rw [ih.not_answer] at did
    cases did
  | ends course ended ih => exact ih.returned ended

/-- A call that changes the cap never has to wait. -/
theorem Resized.prompt (before : Resized count es t) : t.Prompt := by
  cases before with
  | begun =>
    refine .inr (.inr fun v p => ?_)
    by_cases zero : count = 0
    · exact ⟨p, _, by simp [Task.step, Resize.step, Pool.setMaxConnections, zero]; rfl⟩
    · exact ⟨_, _, by simp [Task.step, Resize.step, Pool.setMaxConnections, zero]; exact ⟨rfl, rfl⟩⟩
  | written => exact .inr (.inr fun v p => ⟨_, _, rfl⟩)
  | refused | announced => exact .inl (.inr rfl)
  | returned => exact .inl (.inl rfl)

end

/-! ## Main result -/

/-- The owner of a pool can change it at any time. -/
theorem State.act_adjust {site : Site S} {change : Adjustment} (found : s.sites[home]? = some site)
    (owned : site.owned = true) : s.act (.adjust home change) =
      some { s with sites := s.sites.set home { site with pool := change.apply site.pool } } := by
  simp [State.act, found, owned]

/-- How pools come by their settings from some state on, and that those they have are valid. -/
structure Governed (s : State S) : Prop where
  valid : ∀ {home p}, s.pool? home = some p → p.settings.flaw? = none
  /-- A pool is made if its settings have no flaw, and otherwise refused for the first that they
  have. -/
  made : ∀ settings now, (Pool.new settings now : Except Error (Pool S)) =
    settings.approve { settings, createdAt := now }
  built : ∀ requests now, ((Builder.ofRequests requests).build now : Except Error (Pool S)) =
    (Builder.ofRequests requests).settings.approve
      { settings := (Builder.ofRequests requests).settings
        source := (Builder.ofRequests requests).source
        createdAt := now }
  /-- What a builder was told last about a setting counts, and what it was told last about a
  source. -/
  gathered : ∀ requests,
    (∀ k, (Builder.ofRequests requests).settings.get k = Builder.lastWord requests k) ∧
      (Builder.ofRequests requests).source = requests.reverse.findSome? Builder.Request.source?
  /-- The flaw of its settings is that of the first setting on which the last word is flawed. -/
  flawed : ∀ requests,
    (Builder.ofRequests requests).settings.flaw? = Builder.lastFlaw? requests
  /-- So a builder is refused if it was given a flawed value, and no other one for that setting
  afterwards, and for that value if nothing is wrong with the other settings. -/
  refused : ∀ {before after : List Builder.Request} {r k value flaw}, r.word? k = some value →
    (∀ later ∈ after, later.word? k = none) → k.flaw? value = some flaw → ∀ now,
      ∃ first : Settings.Flaw,
        ((Builder.ofRequests (before ++ r :: after)).build now : Except Error (Pool S)) =
            .error (.invalidSettings first.message) ∧
          ((∀ other ≠ k,
              other.flaw? (Builder.lastWord (before ++ r :: after) other) = none) →
            first = flaw)
  /-- A pool that is not there yet can only appear by being built. -/
  appears : ∀ {home p c s'}, s.act c = some s' → s.pool? home = none → s'.pool? home = some p →
    ∃ builder : Builder, c = .build builder ∧ builder.build s.now = .ok p
  /-- A setter is refused if the settings would get a flaw, and writes them otherwise. -/
  written : ∀ {home p}, s.pool? home = some p → ∀ x : Setter,
    x.write p = (x.result p).approve { p with settings := x.result p }
  /-- It has its word on its own setting, and leaves the others as they are. -/
  changed : ∀ (p : Pool S) (x : Setter) k,
    (x.result p).get k = (x.change.word? k).getD (p.settings.get k)
  accepted : ∀ {home site change x p}, s.sites[home]? = some site → site.owned = true →
    Adjustment.setter? change = some x → x.write site.pool = .ok p →
    s.act (.adjust home change) = some { s with sites := s.sites.set home { site with pool := p } }
  rejected : ∀ {home site change x e}, s.sites[home]? = some site → site.owned = true →
    Adjustment.setter? change = some x → x.write site.pool = .error e →
    s.act (.adjust home change) = some s
  /-- The cap is changed by a call of its own, which may be interrupted but never has to wait. -/
  resized : ∀ {home} count, s.owned home = true →
    ∃ s₁, s.act (.begin (.resize home count)) = some s₁ ∧ s₁.sites = s.sites ∧
      ∀ later s₂ call, Leads s₁ later s₂ → s₂.calls[s.calls.length]? = some call →
        Resized count (effects (moves s.calls.length later)) call.task ∧
          GoesOn s₂ s.calls.length call
  /-- Whatever else happens to a pool, its settings stay as they are. -/
  kept : ∀ {home p c s'}, s.act c = some s' → s.pool? home = some p →
    ∃ p', s'.pool? home = some p' ∧
      (p'.settings = p.settings ∨ ∃ x, Sets s home c x ∧ x.write p = .ok p')

/-- The settings of every pool are valid whatever has happened to it, and no way to write them is
laxer than the check that was made when it was built. -/
theorem settings_always_valid (run : Run past s) : Governed s where
  valid built := (Settings.flaw?_eq_none_iff _).2 (run.valid built)
  made settings now := Pool.new_eq_approve settings
  built requests now := Builder.build_eq_approve _
  gathered requests := ⟨Builder.get_ofRequests requests, Builder.source_ofRequests requests⟩
  flawed requests := Builder.flaw?_ofRequests requests
  refused word silent flawed now := Builder.exists_build_eq_error word silent flawed now
  appears act absent built := by
    obtain ⟨builder, made, is, -⟩ := exists_build act absent built
    exact ⟨builder, is, made⟩
  written built x := x.write_eq_approve (run.valid built)
  changed p x k := p.settings.get_change x.change k
  accepted found owned is written := by
    rw [State.act_adjust found owned, Adjustment.apply_of_setter is, written]
    rfl
  rejected {home site change x e} found owned is written := by
    have same : s.sites.set home site = s.sites := by
      obtain ⟨hlt, rfl⟩ := List.getElem?_eq_some_iff.1 found
      exact List.set_getElem_self hlt
    rw [State.act_adjust found owned, Adjustment.apply_of_setter is, written]
    show some { s with sites := s.sites.set home site } = some s
    rw [same]
  resized {home} count owned := by
    have act : s.act (.begin (.resize home count)) =
        some { s with calls := s.calls ++ [⟨home, false, .resize (.write count)⟩] } := by
      simp [State.act, State.enter, owned]
    refine ⟨_, act, rfl, fun later s₂ call leads was => ?_⟩
    have was₁ : (s.calls ++ [(⟨home, false, .resize (.write count)⟩ : Call S)])[s.calls.length]? =
        some ⟨home, false, .resize (.write count)⟩ := by simp
    have resized := (leads.course was₁ was).resized
    have run₁ : Run ((s, .begin (.resize home count)) :: past) _ := .next run trivial act
    obtain ⟨p, built⟩ := (run₁.append leads).grounded.exists_pool was
    exact ⟨resized, .of_prompt resized.prompt was built⟩
  kept act built := settings_of_act act built

/-- A pool is built, and another statement to probe with is accepted, but not a blank one. Then a
cap of zero is refused, and another cap is accepted. -/
def governing : List (Choice Nat) :=
  List.flatten [[.build { settings := { maxConnections := 1 } },
    .adjust 0 (.heartbeatQuery "SELECT 2"), .adjust 0 (.heartbeatQuery " "), .begin (.resize 0 0)],
    steps 1 1, [.begin (.resize 0 3)], steps 2 2]

theorem settings_always_valid_of_governing :
    ∃ past s p, Run (S := Nat) past s ∧ s.pool? 0 = some p ∧
      p.settings = { maxConnections := 3, heartbeatQuery := "SELECT 2" } ∧ Governed s := by
  have h : ((play governing).any fun r => decide (∃ p ∈ r.2.pool? 0,
      p.settings = { maxConnections := 3, heartbeatQuery := "SELECT 2" })) = true := by
    decide +kernel
  obtain ⟨⟨past, s⟩, played, h⟩ := (Option.any_eq_true _ _).1 h
  obtain ⟨p, built, settings⟩ := of_decide_eq_true h
  exact ⟨past, s, p, run_of_play played, built, settings,
    settings_always_valid (run_of_play played)⟩

end Interleaving

end ConnectionPool
