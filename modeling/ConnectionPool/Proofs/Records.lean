import ConnectionPool.Proofs.Membership

set_option autoImplicit false

/-! # Where records come from

A record that a pool has after a move was in the same roster before, or a section has made it from
the record of the session in one of the rosters, or it is the record of a new session. -/

namespace ConnectionPool

/-- The pool has this record of the session with the key, lent or idle. -/
def Pool.Has {S : Type} (p : Pool S) (key : SessionKey) (r : Record S) : Prop :=
  p.active.find? key = some r ∨ p.idle.find? key = some r

theorem Verdict.eq_healthy {verdict : Verdict} (h : verdict.isHealthy = true) :
    verdict = .healthy := by
  cases verdict with
  | healthy => rfl
  | failed => cases h

theorem Standing.eq_idle {standing : Standing} (h : standing.isAvailable = true) :
    standing = .idle := by
  cases standing with
  | idle => rfl
  | _ => cases h

/-- No session is lent and idle at once, if its key has one place at most. -/
theorem Pool.not_active_and_idle {S : Type} {p : Pool S} {key : SessionKey} {r r' : Record S}
    (apart : p.places key ≤ 1) (active : p.active.find? key = some r)
    (idle : p.idle.find? key = some r') :
    False := by
  have lent := Roster.count_keys_of_some active
  have shelved := Roster.count_keys_of_some idle
  rw [places] at apart
  omega

namespace Interleaving

variable {S : Type} {v : View S} {reply : Option (Reply S)} {p p' : Pool S} {x y : Role S}
  {key : SessionKey} {r : Record S} {en : List (SessionKey × S)}

/-- Where the record of an active session comes from. -/
inductive ActiveFrom (v : View S) (p : Pool S) (x y : Role S) (key : SessionKey)
    (r : Record S) : Prop
  | stays (was : p.active.find? key = some r)
  | reused {old : Record S} (was : p.idle.find? key = some old) (free : old.standing = .idle)
      (made : r = old.checkOut v.now) (lent : y = .loan r)
  | installed (was : x = .recruit r) (own : r.info.key = key) (lent : y = .loan r)

/-- Where the record of an idle session comes from. -/
inductive IdleFrom (v : View S) (p : Pool S) (key : SessionKey) (r : Record S) : Prop
  | stays (was : p.idle.find? key = some r)
  | shelved {old : Record S} (was : p.active.find? key = some old) (made : r = old.checkIn v.now)
  | marked {old : Record S} (was : p.idle.find? key = some old) (made : r = old.beginProbe)
  | passed {old : Record S} (was : p.idle.find? key = some old)
      (made : r = old.endProbe .healthy v.now)

theorem Moves.activeFrom (m : Moves v reply p x p' y) (filed : Filed en p)
    (found : p'.active.find? key = some r) : ActiveFrom v p x y key r := by
  cases m with
  | pass alike => exact .stays (alike.active ▸ found)
  | reuse lend =>
    obtain ⟨k, record, was, available, rfl, rfl⟩ := Pool.lend_eq_reuse lend
    simp only [(filed.idle k record was).own, Roster.find?_insert] at found
    split at found
    · next same =>
      cases found
      exact .reused (same ▸ was) (Standing.eq_idle available) rfl rfl
    · exact .stays found
  | reserve lend =>
    obtain ⟨-, rfl⟩ := Pool.lend_eq_reserve lend
    exact .stays found
  | install isOpen =>
    simp only [Pool.install, isOpen, Pool.unreserve, Bool.false_eq_true, if_false,
      Roster.find?_insert] at found
    split at found
    · next same =>
      cases found
      exact .installed rfl same.symm rfl
    · exact .stays found
  | takeBack taken =>
    obtain ⟨record, idle, -, rfl, -⟩ := Pool.takeBack_eq_some taken
    rw [Roster.find?_erase] at found
    split at found
    · cases found
    · exact .stays found
  | letGo taken =>
    obtain ⟨record, -, rfl⟩ := Pool.letGo_eq_some taken
    rw [Roster.find?_erase] at found
    split at found
    · cases found
    · exact .stays found
  | resize set =>
    rw [Pool.setMaxConnections_eq_ok set] at found
    exact .stays found
  | _ => exact .stays found

theorem Moves.idleFrom (m : Moves v reply p x p' y) (found : p'.idle.find? key = some r) :
    IdleFrom v p key r := by
  cases m with
  | pass alike => exact .stays (alike.idle ▸ found)
  | reuse lend =>
    obtain ⟨k, record, -, -, -, rfl⟩ := Pool.lend_eq_reuse lend
    rw [Roster.find?_erase] at found
    split at found
    · cases found
    · exact .stays found
  | reserve lend =>
    obtain ⟨-, rfl⟩ := Pool.lend_eq_reserve lend
    exact .stays found
  | install isOpen =>
    simp only [Pool.install, isOpen, Pool.unreserve, Bool.false_eq_true, if_false] at found
    exact .stays found
  | @takeBack k q rejected taken =>
    cases rejected with
    | none =>
      obtain ⟨record, was, rfl⟩ := Pool.takeBack_eq_shelved taken
      simp only [Roster.find?_insert] at found
      split at found
      · next same =>
        cases found
        exact .shelved (same ▸ was) rfl
      · exact .stays found
    | some session =>
      obtain ⟨record, -, -, rfl⟩ := Pool.takeBack_eq_rejected taken
      exact .stays found
  | letGo taken =>
    obtain ⟨record, -, rfl⟩ := Pool.letGo_eq_some taken
    exact .stays found
  | beginProbes =>
    obtain ⟨old, was, rfl | ⟨-, rfl⟩⟩ := Pool.find?_beginProbes found
    · exact .stays was
    · exact .marked was rfl
  | endProbes =>
    obtain ⟨old, was, rfl | ⟨verdict, healthy, rfl⟩⟩ := Pool.find?_endProbes found
    · exact .stays was
    · exact .passed was (by rw [Verdict.eq_healthy healthy])
  | resize set =>
    rw [Pool.setMaxConnections_eq_ok set] at found
    exact .stays found
  | drain =>
    rw [Pool.drain, Roster.find?_empty] at found
    cases found
  | _ => exact .stays found

end Interleaving

end ConnectionPool
