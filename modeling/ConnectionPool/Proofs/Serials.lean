import Mathlib.Data.List.Nodup
import ConnectionPool.Server

set_option autoImplicit false

/-! # The sessions of a server

A server numbers its sessions from one on (`Server.Numbered`). As long as it has made fewer than
`2 ^ 32` of them a number tells one session, and a pool that is the only one to ask the server draws
the keys in step with the numbers (`Serial.key`). -/

namespace ConnectionPool

/-- The key that goes with a serial number if one pool draws a key for every session of the
server. -/
def Serial.key (serial : Serial) : SessionKey := ⟨serial.toUInt64⟩

theorem Serial.key_inj {a b : Serial} (h : Serial.key a = Serial.key b) : a = b := by
  have same : (UInt32.toUInt64 a).toNat = (UInt32.toUInt64 b).toNat := by
    rw [(SessionKey.mk.inj h : UInt32.toUInt64 a = UInt32.toUInt64 b)]
  exact UInt32.toNat_inj.1 (by simpa using same)

theorem Serial.key_ofNat {n : Nat} (h : n < UInt32.size) : Serial.key (.ofNat n) = ⟨.ofNat n⟩ := by
  refine congrArg SessionKey.mk (UInt64.toNat_inj.1 ?_)
  rw [UInt32.toNat_toUInt64, UInt32.toNat_ofNat_of_lt' h, UInt64.toNat_ofNat_of_lt']
  exact Nat.lt_trans h (by decide)

namespace Server

variable {srv : Server} {serial : Serial} {x y : ServerSession} {f : ServerSession → ServerSession}

/-- The sessions that were made, with their keys. -/
def issued (srv : Server) : List (SessionKey × Serial) :=
  (srv.sessions.map (·.serial)).map fun serial => (Serial.key serial, serial)

/-- The sessions were numbered from one on, and the last number was drawn for the last session. -/
structure Numbered (srv : Server) : Prop where
  serials : srv.sessions.map (·.serial) =
    (List.range srv.sessions.length).map fun i => .ofNat (i + 1)
  created : srv.created = .ofNat srv.sessions.length

namespace Numbered

section

variable (numbered : srv.Numbered) (few : srv.sessions.length < UInt32.size)
include numbered few

theorem toNat_serial {i : Nat} (at_ : srv.sessions[i]? = some x) : x.serial.toNat = i + 1 := by
  have hi := (List.getElem?_eq_some_iff.1 at_).1
  have drawn : (srv.sessions.map (·.serial))[i]? = some x.serial := by
    rw [List.getElem?_map, at_]; rfl
  rw [numbered.serials, List.getElem?_map, List.getElem?_range hi] at drawn
  rw [← Option.some.inj drawn]
  exact UInt32.toNat_ofNat_of_lt' (by omega)

/-- The next session gets a number that no session has. -/
theorem fresh (hx : x ∈ srv.sessions) : x.serial ≠ srv.created + 1 := by
  obtain ⟨i, at_x⟩ := List.mem_iff_getElem?.1 hx
  have hi := (List.getElem?_eq_some_iff.1 at_x).1
  have number := numbered.toNat_serial few at_x
  intro same
  rw [same, numbered.created, UInt32.toNat_add, UInt32.toNat_ofNat_of_lt' few, UInt32.toNat_one]
    at number
  -- the number is one ahead of all others, or zero after the last word
  have size : UInt32.size = 2 ^ 32 := rfl
  omega

theorem nodup_serials : (srv.sessions.map (·.serial)).Nodup := by
  rw [List.Nodup, List.pairwise_map, List.pairwise_iff_getElem]
  intro i j hi hj less same
  have first := numbered.toNat_serial few (List.getElem?_eq_getElem hi)
  have second := numbered.toNat_serial few (List.getElem?_eq_getElem hj)
  rw [same] at first
  omega

/-- No two sessions have one number. -/
theorem eq_of_serial (hx : x ∈ srv.sessions) (hy : y ∈ srv.sessions) (same : x.serial = y.serial) :
    x = y :=
  List.inj_on_of_nodup_map (numbered.nodup_serials few) hx hy same

theorem connected_eq (hx : x ∈ srv.sessions) : srv.connected x.serial = x.connected := by
  cases found : srv.find? x.serial with
  | none =>
    have absent := List.find?_eq_none.1 found x hx
    simp at absent
  | some y =>
    have hy := List.mem_of_find?_eq_some found
    have same : y.serial = x.serial := by simpa using List.find?_some found
    rw [numbered.eq_of_serial few hy hx same] at found
    rw [connected, found]
    rfl

/-- To change the session of a number changes one entry of the list. -/
theorem exists_sessions_modify (hx : x ∈ srv.sessions) : ∃ before after,
    srv.sessions = before ++ x :: after ∧
      ∀ f, (srv.modify x.serial f).sessions = before ++ f x :: after := by
  obtain ⟨before, after, split⟩ := List.append_of_mem hx
  have once := numbered.nodup_serials few
  rw [split, List.map_append, List.map_cons, List.perm_middle.nodup_iff,
    List.nodup_cons, ← List.map_append] at once
  have other (f : ServerSession → ServerSession) (y : ServerSession) (hy : y ∈ before ++ after) :
      (if y.serial = x.serial then f y else y) = y := by
    refine if_neg fun same => once.1 ?_
    rw [← same]
    exact List.mem_map_of_mem hy
  refine ⟨before, after, split, fun f => ?_⟩
  rw [Server.modify, split, List.map_append, List.map_cons, if_pos rfl,
    List.map_congr_left fun y hy => other f y (List.mem_append_left _ hy),
    List.map_congr_left fun y hy => other f y (List.mem_append_right _ hy)]
  simp

end

end Numbered

/-! ## Sessions that change -/

section

variable (keeps : ∀ x, (f x).serial = x.serial)
include keeps

theorem serials_modify :
    (srv.modify serial f).sessions.map (·.serial) = srv.sessions.map (·.serial) := by
  rw [modify, List.map_map]
  refine List.map_congr_left fun x _ => ?_
  simp only [Function.comp_apply]
  split
  · rw [keeps]
  · rfl

theorem issued_modify : (srv.modify serial f).issued = srv.issued := by
  rw [issued, serials_modify keeps]
  rfl

theorem Numbered.modify (numbered : srv.Numbered) : (srv.modify serial f).Numbered := by
  have length : (srv.modify serial f).sessions.length = srv.sessions.length := List.length_map _
  refine ⟨?_, ?_⟩
  · rw [serials_modify keeps, numbered.serials, length]
  · rw [length]
    exact numbered.created

end

/-- What is true of a changed session and of all others is true of all sessions. -/
theorem Numbered.forall_modify (numbered : srv.Numbered) (few : srv.sessions.length < UInt32.size)
    {P : ServerSession → Prop} (hx : x ∈ srv.sessions) (self : P (f x))
    (others : ∀ y ∈ srv.sessions, y.serial ≠ x.serial → P y) :
    ∀ y ∈ (srv.modify x.serial f).sessions, P y := by
  intro y hy
  obtain ⟨z, hz, rfl⟩ := List.mem_map.1 hy
  split
  · next same =>
    rw [numbered.eq_of_serial few hz hx same]
    exact self
  · next other => exact others z hz other

/-! ## Sessions that are made -/

/-- A refused request leaves the sessions alone. -/
theorem create_of_refusals (h : srv.refusals ≠ 0) :
    srv.create.1 = { srv with attempts := srv.attempts + 1, refusals := srv.refusals - 1 } := by
  simp [create, h]

/-- A request that is met leads to one session more, which has just been opened. -/
theorem sessions_opened (numbered : srv.Numbered) (few : srv.sessions.length < UInt32.size)
    (h : srv.refusals = 0) : (srv.create.1.modify (srv.created + 1) .connect).sessions =
      srv.sessions ++ [ServerSession.connect { serial := srv.created + 1 }] := by
  have others : srv.sessions.map (fun x => if x.serial = srv.created + 1 then x.connect else x) =
      srv.sessions := by
    rw [List.map_congr_left fun x hx => if_neg (numbered.fresh few hx)]
    exact List.map_id' _
  simp [create, h, modify, others]

theorem Numbered.opened (numbered : srv.Numbered) (few : srv.sessions.length < UInt32.size)
    (h : srv.refusals = 0) : (srv.create.1.modify (srv.created + 1) .connect).Numbered := by
  have next : srv.created + 1 = .ofNat (srv.sessions.length + 1) := by
    rw [numbered.created, UInt32.ofNat_add]
    rfl
  have created : (srv.create.1.modify (srv.created + 1) .connect).created = srv.created + 1 := by
    simp [create, h, Server.modify]
  refine ⟨?_, ?_⟩
  · rw [sessions_opened numbered few h, List.map_append, numbered.serials, List.length_append,
      List.length_singleton, List.range_succ, List.map_append, List.map_singleton,
      List.map_singleton, ← next]
    rfl
  · rw [created, sessions_opened numbered few h, next, List.length_append, List.length_singleton]

end Server

end ConnectionPool
