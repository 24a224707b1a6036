import SmartGroup.Support.Cursor
import SmartGroup.Group.Clock

/-! The operations of a group that erase, with the iterators that they use. -/
namespace SmartGroup
open Bytes Sweep Objects Cursor

namespace GroupHandler

/-- The first half of `process(CHeaderData &)` from `m_users.find(my)` on. -/
def recordHeaderAt (env : Env) (g : GroupHandler) (header : HeaderData) :
    Except (Stop Fault) (Option Bool × GroupHandler × List Output) :=
  let my := header.myCall1
  let your := header.yourCall
  let id := header.getId
  let finds :=
    if env.findUserAddr my = [] then env.ircs.map fun irc => Output.findUser irc.1 my else []
  let it := find g.users.entries my
  if your = g.groupCallsign then
    -- a new user; the iterator is the end and is not used again
    if it = none then .ok (g.recordHeader env header)
    else
      match read g.users.entries it with
      | .error m => .error (.misuse m)
      | .ok user =>
          let g := { g with users := g.users.reset user env.now }
          match g.ids[id]? with
          | some (some _) => .ok (none, g, finds)
          | _ =>
              match read g.users.entries it with
              | .error m => .error (.misuse m)
              | .ok user =>
                  .ok (some false,
                    { g with ids := g.ids.insert id (some (SGSId.new id messageDelay user)) }, finds)
  else if it = none then .ok (none, g, finds)
  else
    let g := { g with users := g.users.erase my }
    match read g.users.entries it with
    | .error m => .error (.misuse m)
    | .ok user =>
        .ok (none, { g with ids := g.ids.insert id (some (SGSId.new id messageDelay user).setLogoff) },
          finds ++ [.removing my .unsubscribed])

def processHeaderAt (env : Env) (g : GroupHandler) (header : HeaderData) :
    Except (Stop Fault) (GroupHandler × List Output) :=
  match g.recordHeaderAt env header with
  | .error e => .error e
  | .ok (none, g, outs) => .ok (g, outs)
  | .ok (some islogin, g, outs) =>
      if g.id ≠ 0 then .ok (g, outs)
      else
        let (g, sent) := g.openStream env header islogin
        .ok (g, outs ++ sent)

/-- A turn of the loop of `LogoffUser` over the incoming ids. -/
def dropOwned (user : Nat) (g : GroupHandler) (entry : Nat × Option SGSId) : GroupResult :=
  match entry.2 with
  | none => .ok (g, [])
  | some tx =>
      if tx.user = user then
        .ok ({ g with
          id := if tx.id = g.id then 0 else g.id
          ids := g.ids.erase entry.1 }, [])
      else .ok (g, [])

def logoffUserAt (g : GroupHandler) (callsign : Str) :
    Except (Stop Fault) (Bool × GroupHandler × List Output) :=
  -- the loops of this branch erase nothing, `clear()` follows them
  if callsign = allUsers then .ok (g.logoffUser callsign)
  else
    let it := find g.users.entries callsign
    if it = none then .ok (false, g, [])
    else
      match read g.users.entries it with
      | .error m => .error (.misuse m)
      | .ok user =>
          match run .leave (·.ids.toList) (dropOwned user) g with
          | .error e => .error e
          | .ok (g, _, _) =>
              let g := { g with users := g.users.delete callsign }
              let g := if g.users.entries = [] then { g with ids := ∅, repeaters := ∅, id := 0 } else g
              .ok (true, g, [.removing callsign .remoteControl])

def clockPingAt (env : Env) (ms : Nat) (g : GroupHandler) :
    Except (Stop Fault) (GroupHandler × List Output) :=
  let g := { g with pingTimer := g.pingTimer.clock ms }
  if g.pingTimer.isRunning && g.pingTimer.hasExpired then
    match run .assign (·.users.entries) (fun s entry => .ok (scanUser env s entry)) ⟨g.users, ∅⟩ with
    | .error e => .error e
    | .ok (scan, outs, _) =>
        let pings := scan.addresses.toList.map fun address => Output.ping (pingServer env address.1) address.1
        .ok ({ g with users := scan.users, pingTimer := g.pingTimer.start }, outs ++ pings)
  else .ok (g, [])

def clockExpiryAt (g : GroupHandler) : Except (Stop Fault) (GroupHandler × List Output) :=
  if g.id ≠ 0 then .ok (g, [])
  else
    match run .assign Users.entries (fun t entry => .ok (expireUser t entry)) g.users with
    | .error e => .error e
    | .ok (users, outs, _) => .ok ({ g with users }, outs)

def clockIntAt (env : Env) (ms : Nat) (g : GroupHandler) :
    Except (Stop Fault) (GroupHandler × List Output) :=
  match g.clockPingAt env ms with
  | .error e => .error e
  | .ok (g, pings) =>
      let g := g.clockLink ms
      let (g, heard) := g.clockAnnounce env ms
      let g := g.clockStatus env
      match run .assign (·.ids.toList) (clockId env ms) g with
      | .error e => .error e
      | .ok (g, acks, _) =>
          match run .assign Users.entries (fun t entry => .ok (t.clock entry.2 ms, ([] : List Output))) g.users with
          | .error e => .error e
          | .ok (users, _, _) =>
              match { g with users }.clockExpiryAt with
              | .error e => .error e
              | .ok (g, expired) => .ok (g, pings ++ heard ++ acks ++ expired)

/-! Headers. -/

theorem find_entries (t : Users) (c : Str) :
    Cursor.find t.entries c = if (t.find c).isSome then some c else none := find_toList t.index c

theorem read_entries (t : Users) (c : Str) :
    read t.entries (some c) = (t.find c).elim (.error .erased) .ok := read_toList t.index c

/-- The header ends the subscription of a user. -/
def Unsubscribes (g : GroupHandler) (header : HeaderData) : Prop :=
  header.yourCall ≠ g.groupCallsign ∧ (g.users.find header.myCall1).isSome

instance (g : GroupHandler) (header : HeaderData) : Decidable (g.Unsubscribes header) :=
  inferInstanceAs (Decidable (_ ∧ _))

section
variable {env : Env} {g : GroupHandler} {header : HeaderData}

theorem recordHeaderAt_eq (stays : ¬g.Unsubscribes header) :
    g.recordHeaderAt env header = .ok (g.recordHeader env header) := by
  unfold recordHeaderAt recordHeader
  dsimp only
  rw [find_entries]
  by_cases subscribe : header.yourCall = g.groupCallsign
  · rw [if_pos subscribe, if_pos subscribe]
    cases filed : g.users.find header.myCall1 with
    | none => simp
    | some user =>
        have kept : (g.users.reset user env.now).find header.myCall1 = some user := filed
        simp only [Option.isSome_some, if_true, reduceCtorEq, if_false, read_entries, filed, kept,
          Option.elim_some]
        rcases g.ids[header.getId]? with _ | _ | tx <;> rfl
  · rw [if_neg subscribe, if_neg subscribe]
    cases filed : g.users.find header.myCall1 with
    | none => rfl
    | some user => exact absurd ⟨subscribe, by rw [filed]; rfl⟩ stays

theorem recordHeaderAt_erased (unsubscribes : g.Unsubscribes header) :
    g.recordHeaderAt env header = .error (.misuse .erased) := by
  obtain ⟨other, known⟩ := unsubscribes
  have gone : (g.users.erase header.myCall1).find header.myCall1 = none := by
    rw [Users.find_erase, if_pos rfl]
  unfold recordHeaderAt
  dsimp only
  rw [if_neg other, find_entries, if_pos known, if_neg (by simp), read_entries, gone]
  rfl

theorem processHeaderAt_eq (stays : ¬g.Unsubscribes header) :
    g.processHeaderAt env header = .ok (g.processHeader env header) := by
  unfold processHeaderAt processHeader
  rw [recordHeaderAt_eq stays]
  rcases g.recordHeader env header with ⟨_ | islogin, g₁, outs⟩
  · rfl
  · dsimp only
    split <;> rfl

theorem processHeaderAt_erased (unsubscribes : g.Unsubscribes header) :
    g.processHeaderAt env header = .error (.misuse .erased) := by
  unfold processHeaderAt
  rw [recordHeaderAt_erased unsubscribes]

end

/-! The remote control. -/

/-- The id that the user owns, if the entry holds one. -/
def owned (user : Nat) (entry : Nat × Option SGSId) : Option (Nat × SGSId) :=
  (entry.2.filter fun tx => tx.user = user).map (entry.1, ·)

theorem firstOwned_eq (g : GroupHandler) (user : Nat) :
    g.firstOwned user = g.ids.toList.findSome? (owned user) := by
  unfold firstOwned
  congr 1
  funext entry
  obtain ⟨k, held⟩ := entry
  cases held with
  | none => rfl
  | some tx =>
      by_cases own : tx.user = user <;> simp [owned, Option.filter, own]

theorem run_dropOwned (g : GroupHandler) (user : Nat) :
    ∃ visited, run .leave (·.ids.toList) (dropOwned user) g = .ok (g.dropFirstId user, [], visited) := by
  let dropped (found : Nat × SGSId) : GroupHandler × List Output :=
    ({ g with id := if found.2.id = g.id then 0 else g.id, ids := g.ids.erase found.1 }, [])
  have passes : ∀ entry ∈ g.ids.toList, owned user entry = none → dropOwned user g entry = .ok (g, []) := by
    intro entry _ other
    obtain ⟨k, held⟩ := entry
    cases held with
    | none => rfl
    | some tx =>
        have apart : tx.user ≠ user := by
          intro same
          simp [owned, same] at other
        exact if_neg apart
  have leaves : ∀ entry ∈ g.ids.toList, ∀ found ∈ owned user entry,
      dropOwned user g entry = .ok (dropped found) ∧
        (dropped found).1.ids.toList = Cursor.put g.ids.toList entry.1 none := by
    intro entry member found own
    obtain ⟨k, held⟩ := entry
    obtain ⟨tx, here, rfl⟩ := Option.map_eq_some_iff.mp own
    obtain ⟨there, same⟩ := Option.filter_eq_some_iff.mp here
    cases there
    refine ⟨if_pos (of_decide_eq_true same), ?_⟩
    have erased : (g.ids.erase k)[k]? = none := by rw [get_erase, if_pos rfl]
    have others (k' : Nat) (other : k ≠ k') : (g.ids.erase k)[k']? = g.ids[k']? := by
      rw [get_erase, if_neg other]
    have present : g.ids[k]?.isSome := by
      rw [mem_toList.mp member]
      rfl
    have left := toList_put present others
    rw [erased] at left
    exact left
  obtain ⟨visited, left⟩ := run_leave (π := fun g : GroupHandler => g.ids.toList) (keys_toList g.ids) passes leaves
  refine ⟨visited, left.trans ?_⟩
  rw [← firstOwned_eq]
  unfold dropFirstId
  cases g.firstOwned user <;> rfl

theorem logoffUserAt_eq (g : GroupHandler) (callsign : Str) :
    g.logoffUserAt callsign = .ok (g.logoffUser callsign) := by
  unfold logoffUserAt logoffUser
  by_cases everyone : callsign = allUsers
  · simp only [if_pos everyone]
  · rw [if_neg everyone, if_neg everyone]
    dsimp only
    rw [find_entries]
    cases filed : g.users.find callsign with
    | none => rfl
    | some user =>
        obtain ⟨visited, left⟩ := g.run_dropOwned user
        simp only [Option.isSome_some, if_true, reduceCtorEq, if_false, read_entries, filed, Option.elim_some,
          left]

/-! The clock. -/

theorem entries_nodup (t : Users) : (keys t.entries).Nodup := keys_toList t.index

theorem clockPingAt_eq (env : Env) (ms : Nat) (g : GroupHandler) :
    g.clockPingAt env ms = .ok (g.clockPing env ms) := by
  have own : Own (φ := Fault) (fun s : Scan => s.users.entries) (fun s entry => .ok (scanUser env s entry)) := by
    refine own_map_forEach (π := fun s : Scan => s.users.index) ?_
    intro s c r c' other
    unfold scanUser
    split
    · rfl
    · dsimp only
      split
      · split
        · exact (Users.find_erase s.users c c').trans (if_neg other)
        · rfl
      · rfl
  unfold clockPingAt clockPing
  dsimp only
  split
  · rw [run_assign own ⟨g.users, ∅⟩ (entries_nodup g.users)]
    simp only [swept, tryEach_forEach]
  · rfl

theorem clockExpiryAt_eq (g : GroupHandler) : g.clockExpiryAt = .ok g.clockExpiry := by
  have own : Own (φ := Fault) Users.entries (fun t entry => .ok (expireUser t entry)) := by
    refine own_map_forEach (π := Users.index) ?_
    intro t c r c' other
    unfold expireUser
    split
    · rfl
    · split
      · exact (Users.find_delete t c c').trans (if_neg other)
      · rfl
  unfold clockExpiryAt clockExpiry
  split
  · rfl
  · rw [run_assign own _ (entries_nodup g.users)]
    simp only [swept, tryEach_forEach]

theorem clockIdsAt_eq (env : Env) (ms : Nat) (g : GroupHandler) :
    run .assign (·.ids.toList) (clockId env ms) g = swept (clockId env ms) g g.ids.toList := by
  have own : Own (fun g : GroupHandler => g.ids.toList) (clockId env ms) := by
    refine own_map (π := fun g : GroupHandler => g.ids) ?_
    intro s k held s' o present turn k' other
    rw [(clockId_case turn).1.ids present k', if_neg other]
  exact run_assign own g (keys_toList g.ids)

theorem clockUsersAt_eq (ms : Nat) (t : Users) :
    run .assign Users.entries (fun t entry => .ok (t.clock entry.2 ms, ([] : List Output))) t =
      (.ok (t.entries.foldl (fun t entry => t.clock entry.2 ms) t, [], keys t.entries) :
        Except (Stop Fault) (Users × List Output × List Str)) := by
  have own : Own (φ := Fault) Users.entries
      (fun t entry => .ok (t.clock entry.2 ms, ([] : List Output))) :=
    own_map_forEach (π := Users.index) fun _ _ _ _ _ => rfl
  rw [run_assign own t (entries_nodup t), swept, tryEach_forEach, forEach_silent]

/-- With its iterators, `clockInt` does what it does without them. -/
theorem clockIntAt_eq (env : Env) (ms : Nat) (g : GroupHandler) :
    g.clockIntAt env ms = (g.clockInt env ms).mapError .fault := by
  unfold clockIntAt clockInt
  rw [clockPingAt_eq]
  dsimp only
  rw [clockIdsAt_eq, swept]
  unfold clockIds
  cases tryEach (clockId env ms) _ _ with
  | error f => rfl
  | ok result =>
      obtain ⟨g₅, acks⟩ := result
      dsimp only
      rw [clockUsersAt_eq]
      dsimp only
      rw [clockExpiryAt_eq]
      rfl

end GroupHandler
end SmartGroup
