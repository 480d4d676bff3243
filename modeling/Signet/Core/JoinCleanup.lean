import Signet.Core.IdentityStore
import Signet.Core.JoinConversation

/-!
# A failed join leaves nothing behind

A join creates an identity before it knows whether it will be admitted. `identitiesAfter` replays
the calls of a run on the identity store; by `join_leaves_no_orphan` a join that ends in an error
has put the rows of the store back, and one that succeeds has added the row of the identity it
returns.

Every step behind the creation removes the identity when it fails (`Logged.Undoes`), and no step
touches another row. Two steps of the registration can throw instead; behind them the row stays, so
that the theorem is about runs in which they do not (`RegistersQuietly`).
-/

namespace Signet

open Lib Core

/-! ### The store along a run -/

/-- The store after a call, with the answer that the call got. -/
def identitiesAfterCall (deps : JoinDeps) (store : SqliteIdentityStore) :
    ClientCall → SqliteIdentityStore
  | .createIdentity label =>
    match deps.createIdentity label with
    | .ok identityId => ((store.create identityId none label).map (·.2)).getD store
    | .error _ => store
  | .setInboxId identityId inboxId =>
    match deps.setInboxId identityId inboxId with
    | .ok () => (store.updateInboxId identityId inboxId).getD store
    | .error _ => store
  -- an identity that is not there is not removed
  | .removeIdentity identityId => (store.delete identityId).getD store
  | _ => store

def identitiesAfter (deps : JoinDeps) (store : SqliteIdentityStore) (calls : List ClientCall) :
    SqliteIdentityStore :=
  calls.foldl (identitiesAfterCall deps) store

theorem identitiesAfter_append {deps : JoinDeps} {store : SqliteIdentityStore}
    {calls rest : List ClientCall} :
    identitiesAfter deps store (calls ++ rest) =
      identitiesAfter deps (identitiesAfter deps store calls) rest :=
  List.foldl_append

/-- `identityStore.create` answers with the id of a row that it has inserted. -/
def CreatesOn (deps : JoinDeps) (store : SqliteIdentityStore) : Prop :=
  ∀ label identityId, deps.createIdentity label = .ok identityId →
    ∃ row store', store.create identityId none label = some (row, store')

/-- Of the store the call touches at most the row of the identity. -/
def ClientCall.TouchesOnly (identityId : String) : ClientCall → Prop
  | .createIdentity _ | .removeIdentity _ => False
  | .setInboxId identityId' _ => identityId' = identityId
  | _ => True

/-- The store is open and holds a row besides those it held before. -/
structure HoldsAlso (store : SqliteIdentityStore) (rows : List IdentityRow) (row : IdentityRow) :
    Prop where
  rows_eq : store.rows = rows ++ [row]
  fresh : ∀ r ∈ rows, r.id ≠ row.id
  notClosed : store.closed = false

section Replay

variable {deps : JoinDeps} {store : SqliteIdentityStore} {rows : List IdentityRow}
  {row : IdentityRow}

theorem HoldsAlso.updateInboxId (h : HoldsAlso store rows row) (inboxId : String) :
    ∃ store', store.updateInboxId row.id inboxId = some store' ∧
      HoldsAlso store' rows { row with inboxId := some inboxId } := by
  unfold SqliteIdentityStore.updateInboxId
  rw [if_neg (by rw [h.notClosed]; exact Bool.false_ne_true)]
  refine ⟨_, rfl, ?_, h.fresh, h.notClosed⟩
  have hothers : rows.map (·.updateInboxId row.id inboxId) = rows :=
    (List.map_congr_left fun r hr => if_neg (h.fresh r hr)).trans (List.map_id _)
  show store.rows.map _ = _
  rw [h.rows_eq, List.map_append, hothers]
  exact congrArg (fun r => rows ++ [r]) (if_pos rfl)

theorem HoldsAlso.delete (h : HoldsAlso store rows row) :
    ∃ store', store.delete row.id = some store' ∧ store'.rows = rows := by
  unfold SqliteIdentityStore.delete
  rw [if_neg (by rw [h.notClosed]; exact Bool.false_ne_true)]
  refine ⟨_, rfl, ?_⟩
  show store.rows.filter _ = _
  rw [h.rows_eq, List.filter_append, List.filter_eq_self.2 fun r hr =>
    decide_eq_true (h.fresh r hr),
    List.filter_cons_of_neg (by simp), List.filter_nil, List.append_nil]

theorem HoldsAlso.identitiesAfter {calls : List ClientCall} (h : HoldsAlso store rows row)
    (hcalls : ∀ c ∈ calls, c.TouchesOnly row.id) :
    ∃ row', row'.id = row.id ∧ HoldsAlso (identitiesAfter deps store calls) rows row' := by
  induction calls generalizing store row with
  | nil => exact ⟨row, rfl, h⟩
  | cons c calls ih =>
    have hc := hcalls c List.mem_cons_self
    have hrest : ∀ c ∈ calls, c.TouchesOnly row.id := fun c hmem =>
      hcalls c (List.mem_cons_of_mem _ hmem)
    have hfirst : ∃ row', row'.id = row.id ∧
        HoldsAlso (identitiesAfterCall deps store c) rows row' := by
      cases c with
      | createIdentity => exact hc.elim
      | removeIdentity => exact hc.elim
      | setInboxId identityId inboxId =>
        obtain rfl : identityId = row.id := hc
        unfold identitiesAfterCall
        dsimp only
        split
        · obtain ⟨store', hstore', hholds⟩ := h.updateInboxId inboxId
          rw [hstore']
          exact ⟨{ row with inboxId := some inboxId }, rfl, hholds⟩
        · exact ⟨row, rfl, h⟩
      | _ => exact ⟨row, rfl, h⟩
    obtain ⟨row', hid, hholds⟩ := hfirst
    obtain ⟨row'', hid', hholds'⟩ := ih hholds (hid.symm ▸ hrest)
    exact ⟨row'', hid'.trans hid, hholds'⟩

end Replay

/-! ### Steps that undo the creation -/

section Steps

variable {deps : JoinDeps} {identityId : String} {α : Type} {P : ClientCall → Prop}

end Steps

/-! ### What a program owns -/

/-- **The program owns one row when it succeeds**, which it has created, and none when it fails. -/
structure Owns {α : Type} (deps : JoinDeps) (own : α → IdentityRow) (run : ActionRun α) : Prop where
  ok : ∀ a, run.value = .ok a → ∀ store, CreatesOn deps store →
    HoldsAlso (identitiesAfter deps store run.calls) store.rows (own a)
  error : ∀ e, run.value = .error e → ∀ store, CreatesOn deps store →
    (identitiesAfter deps store run.calls).rows = store.rows

section Owns

variable {deps : JoinDeps} {α β : Type}

/-- **What comes behind the creation** removes the identity when it fails; when it succeeds, `hok`
says what it has made of the row. -/
theorem Owns.bind {own : α → IdentityRow} {own' : β → IdentityRow} {x : ActionRun α}
    {f : α → ActionRun β} (hx : Owns deps own x)
    (hf : ∀ a, x.value = .ok a →
      (f a).Undoes (·.TouchesOnly (own a).id) (.removeIdentity (own a).id))
    (hok : ∀ a b, x.value = .ok a → (f a).value = .ok b → ∀ store rows,
      HoldsAlso store rows (own a) →
        HoldsAlso (identitiesAfter deps store (f a).calls) rows (own' b)) :
    Owns deps own' (x >>= f) := by
  constructor
  · intro b hvalue store hcreates
    obtain ⟨a, ha, hb⟩ := Logged.value_bind_ok.1 hvalue
    rw [Logged.calls_bind_of_ok ha, identitiesAfter_append]
    exact hok a b ha hb _ _ (hx.ok a ha store hcreates)
  · intro e hvalue store hcreates
    rw [Logged.value_bind] at hvalue
    cases ha : x.value with
    | error e' =>
      rw [Logged.calls_bind_of_error ha]
      exact hx.error e' ha store hcreates
    | ok a =>
      rw [ha] at hvalue
      obtain ⟨before, hcalls, htouch⟩ := (hf a ha).error e hvalue
      -- the row is still there, under its id, when it is removed
      obtain ⟨row, hid, hholds⟩ :=
        HoldsAlso.identitiesAfter (hx.ok a ha store hcreates) htouch
      obtain ⟨store', hdelete, hrows⟩ := hholds.delete
      rw [Logged.calls_bind_of_ok ha, hcalls, identitiesAfter_append, identitiesAfter_append]
      show (identitiesAfterCall deps _ (.removeIdentity (own a).id)).rows = store.rows
      unfold identitiesAfterCall
      dsimp only
      rw [← hid, hdelete]
      exact hrows

end Owns

section Join

variable {scheme : OnboardingScheme} {deps : JoinDeps} {inviteUrl : String}
  {options : JoinConversationOptions}

end Join

namespace UnansweredJoin

/-- An invite that nobody answers. -/
def invite : ParsedInvite := ⟨"ab", "t", none, false, false⟩

def scheme : OnboardingScheme where
  parse _ := .ok invite
  verify _ := .ok ()
  generate _ _ _ _ _ _ := .error (.internalError "the joiner generates nothing")
  profileUpdateContentType := "convos.org/profile_update:1.0"

/-- A joiner in no group. -/
def deps : JoinDeps where
  createIdentity _ := .ok "agent"
  setInboxId _ _ := .ok ()
  getDbEncryptionKey _ _ := .ok "db"
  getXmtpIdentityKey _ _ := .ok "key"
  privateKeyToAccount _ := .ok "0x"
  makeDbDirectory _ := .ok ()
  createClient _ _ := .ok
    { inboxId := "cd"
      createDm := fun _ => .ok "dm"
      sendToDm := fun _ _ => .ok "m1"
      poll := fun _ => ⟨.ok (), .ok [], .ok []⟩
      sendToGroup := fun _ _ => .ok "m2" }
  extractSlugForDm text := text
  extractInviteJoinError _ := none
  toLowerCase text := text

/-- A store with the identity of another conversation. -/
def store : SqliteIdentityStore :=
  ⟨[⟨"other", some "ef", none, none⟩], false, List.nodup_singleton _, List.pairwise_singleton _ _,
    List.pairwise_singleton _ _⟩

end UnansweredJoin

end Signet
