import RuspiroVchiq.Vchiq.CallEffects

/-!
# What the calls keep of a service

The calls change the state and the ports of a service, but never its user data,
its callback or a set closing flag. They take quota events and raise none. The
lemmas here say so for every poll, however it ends.
-/

namespace RuspiroVchiq.Vchiq

open RuspiroVchiq.Config
open RuspiroVchiq.Shared

set_option autoImplicit false

/-- The user data, the callback and a set closing flag stay. -/
structure Kept (old new : Service) : Prop where
  base : new.base = old.base
  closing : old.closing = true → new.closing = true

def Service.withUser (service : Service) (user : ServiceUser) : Service :=
  { service with base := { service.base with userdata := user } }

/-- No quota event is raised. -/
def Lowered (old new : ServiceQuota) : Prop := new.quotaEvent ≤ old.quotaEvent

/-- The services and the quota records before and after a poll. -/
structure Carries (before after : Instance) : Prop where
  services : ∀ reference, Option.Rel Kept (before.state.srvState.service reference)
    (after.state.srvState.service reference)
  quotas : ∀ port : Nat, Option.Rel Lowered before.state.quotaState.serviceQuotas[port]?
    after.state.quotaState.serviceQuotas[port]?

theorem Kept.refl (service : Service) : Kept service service := ⟨rfl, id⟩

theorem Kept.trans {first second third : Service} (early : Kept first second)
    (late : Kept second third) : Kept first third :=
  ⟨late.base.trans early.base, fun closing => late.closing (early.closing closing)⟩

theorem Lowered.trans {first second third : ServiceQuota} (early : Lowered first second)
    (late : Lowered second third) : Lowered first third :=
  Nat.le_trans late early

/-- Two steps in a row, entry by entry. -/
theorem rel_trans {Entry : Type} (related : Entry → Entry → Prop)
    (trans : ∀ first second third, related first second → related second third →
      related first third)
    {first second third : Option Entry} (early : Option.Rel related first second)
    (late : Option.Rel related second third) : Option.Rel related first third := by
  cases early with
  | none =>
      cases late with
      | none => exact .none
  | some sooner =>
      cases late with
      | some later => exact .some (trans _ _ _ sooner later)

theorem rel_refl {Entry : Type} (related : Entry → Entry → Prop)
    (refl : ∀ entry, related entry entry) (entry : Option Entry) :
    Option.Rel related entry entry := by
  cases entry with
  | none => exact .none
  | some entry => exact .some (refl entry)

theorem lowered_refl (quota : Option ServiceQuota) : Option.Rel Lowered quota quota :=
  rel_refl Lowered (fun quota => Nat.le_refl quota.quotaEvent) quota

/-- The old entry of a new one. -/
theorem rel_earlier {Entry : Type} {related : Entry → Entry → Prop} {old : Option Entry}
    {new : Option Entry} {entry : Entry} (carried : Option.Rel related old new)
    (present : new = some entry) : ∃ earlier, old = some earlier ∧ related earlier entry := by
  subst present
  cases carried with
  | some holds => exact ⟨_, rfl, holds⟩

/-- The new entry of an old one. -/
theorem rel_later {Entry : Type} {related : Entry → Entry → Prop} {old : Option Entry}
    {new : Option Entry} {entry : Entry} (carried : Option.Rel related old new)
    (present : old = some entry) : ∃ later, new = some later ∧ related entry later := by
  subst present
  cases carried with
  | some holds => exact ⟨_, rfl, holds⟩

theorem Carries.trans {first second third : Instance} (early : Carries first second)
    (late : Carries second third) : Carries first third where
  services reference :=
    rel_trans Kept (fun _ _ _ => Kept.trans) (early.services reference) (late.services reference)
  quotas port := rel_trans Lowered (fun _ _ _ => Lowered.trans) (early.quotas port) (late.quotas port)

/-- A poll that leaves the table and the quotas alone. -/
theorem carries_same {before after : Instance}
    (table : after.state.srvState = before.state.srvState)
    (quotas : after.state.quotaState = before.state.quotaState) : Carries before after := by
  constructor
  · rw [table]
    exact fun reference => rel_refl Kept Kept.refl _
  · rw [quotas]
    exact fun port => lowered_refl _

theorem Carries.refl (inst : Instance) : Carries inst inst := carries_same rfl rfl

/-- A change of one service that keeps it. -/
theorem carries_update (inst : Instance) (reference : ServiceRef) {change : Service → Service}
    (keeps : ∀ service, Kept service (change service)) :
    Carries inst (inst.updateService reference change) := by
  constructor
  · intro other
    simp only [Instance.updateService, State.updateService, service_update]
    split_ifs
    · cases inst.state.srvState.service other with
      | none => exact .none
      | some service => exact .some (keeps service)
    · exact rel_refl Kept Kept.refl _
  · exact fun port => lowered_refl _

theorem kept_take_remove_event (service : Service) : Kept service service.takeRemoveEvent :=
  ⟨rfl, id⟩

theorem kept_mark_closing (service : Service) : Kept service service.markClosing :=
  ⟨rfl, fun _ => rfl⟩

theorem kept_set_state (state : ServiceState) (service : Service) :
    Kept service (service.setState state) := ⟨rfl, id⟩

theorem kept_free (service : Service) : Kept service service.free := by
  unfold Service.free
  split <;> exact ⟨rfl, id⟩

theorem kept_open_acknowledged (remotePort : UInt32) (message : SlotMessage)
    (service : Service) : Kept service (service.openAcknowledged remotePort message) := by
  unfold Service.openAcknowledged
  cases openAckVersion message <;> (simp only; split_ifs <;> exact ⟨rfl, id⟩)

theorem kept_close_received (service : Service) :
    Kept service service.closeReceived ∧ service.closeReceived.closing = true := by
  unfold Service.closeReceived
  simp only
  cases srvstate : service.srvstate with
  | closeSent => simp [Service.closeComplete, Service.free, Kept.mk]
  | _ => exact ⟨⟨rfl, fun _ => rfl⟩, rfl⟩

theorem quota_loop_lowers (service : Service) (quota : ServiceQuota) (txEndIndex : Int)
    (quotaEvent : Nat) :
    (quotaLoop service quota txEndIndex quotaEvent).2 ≤ quotaEvent := by
  induction quotaEvent with
  | zero =>
      unfold quotaLoop
      split_ifs <;> exact Nat.le_refl 0
  | succ quotaEvent ih =>
      unfold quotaLoop
      split_ifs
      · exact Nat.le_succ quotaEvent
      · exact Nat.le_succ quotaEvent
      · exact Nat.le_succ_of_le ih
      · exact Nat.le_refl _

/-- Replacing a quota record by a lower one. -/
theorem lowered_set {quotas : List ServiceQuota} {index : Nat} {quota changed : ServiceQuota}
    (stored : quotas[index]? = some quota) (lower : Lowered quota changed) (port : Nat) :
    Option.Rel Lowered quotas[port]? (quotas.set index changed)[port]? := by
  by_cases here : index = port
  · subst here
    have bound : index < quotas.length := (List.getElem?_eq_some_iff.mp stored).1
    rw [stored, List.getElem?_set_self bound]
    exact .some lower
  · rw [List.getElem?_set_ne here]
    exact lowered_refl _

theorem check_quota_lowers (state : State) (call : QueueCall) (port : Nat) :
    Option.Rel Lowered state.quotaState.serviceQuotas[port]?
      (checkQuota state call).2.quotaState.serviceQuotas[port]? := by
  have same := lowered_refl state.quotaState.serviceQuotas[port]?
  unfold checkQuota
  split
  · exact same
  · rename_i service _
    split
    · exact same
    · split
      · exact same
      · rename_i quota stored
        simp only
        split
        · exact same
        · apply lowered_set stored
          exact quota_loop_lowers service quota _ quota.quotaEvent

theorem admit_lowers {state admitted : State} {call : QueueCall}
    {result : Except Stop MessageType} (admission : admitMessage state call = (result, admitted))
    (port : Nat) :
    Option.Rel Lowered state.quotaState.serviceQuotas[port]?
      admitted.quotaState.serviceQuotas[port]? := by
  have checked := check_quota_lowers state call port
  have same := lowered_refl state.quotaState.serviceQuotas[port]?
  unfold admitMessage at admission
  split at admission
  · rw [← (Prod.mk.inj admission).2]
    exact same
  · split_ifs at admission
    · split at admission
      · rename_i outcome
        rw [outcome, (Prod.mk.inj admission).2] at checked
        exact checked
      · rename_i outcome
        rw [outcome, (Prod.mk.inj admission).2] at checked
        exact checked
    · rw [← (Prod.mk.inj admission).2]
      exact same

theorem account_lowers {state : State} {call : QueueCall} {msgType : MessageType}
    {quotaState : QuotaState} (accounted : accountMessage state call msgType = .ok quotaState)
    (port : Nat) :
    Option.Rel Lowered state.quotaState.serviceQuotas[port]? quotaState.serviceQuotas[port]? := by
  unfold accountMessage at accounted
  split_ifs at accounted
  · cases found : call.service.bind state.srvState.service with
    | none => simp [found] at accounted
    | some service =>
        simp only [found, accountData] at accounted
        cases stored : state.quotaState.serviceQuotas[service.localport.toNat]? with
        | none => simp [stored] at accounted
        | some quota =>
            simp only [stored, Except.ok.injEq] at accounted
            rw [← accounted]
            apply lowered_set stored
            exact Nat.le_refl quota.quotaEvent
  · simp only [Except.ok.injEq] at accounted
    rw [accounted]
    exact lowered_refl _

theorem mark_close_sent_kept (table : SrvState) (call : QueueCall) (msgType : MessageType)
    (reference : ServiceRef) :
    Option.Rel Kept (table.service reference)
      ((markCloseSent table call msgType).service reference) := by
  have same := rel_refl Kept Kept.refl (table.service reference)
  unfold markCloseSent
  split
  · exact same
  · split_ifs
    · rw [service_update]
      split_ifs
      · cases table.service reference with
        | none => exact .none
        | some service => exact .some (kept_set_state .closeSent service)
      · exact same
    · exact same

/-- Every call of `queue_message` keeps the services, however it ends. -/
theorem queue_message_carries {before after : State} {call : QueueCall}
    {result : Except Stop Unit} (queued : queueMessage before call = (result, after))
    (reference port : Nat) :
    Option.Rel Kept (before.srvState.service reference) (after.srvState.service reference) ∧
      Option.Rel Lowered before.quotaState.serviceQuotas[port]?
        after.quotaState.serviceQuotas[port]? := by
  cases result with
  | ok _ =>
      obtain ⟨msgType, admitted, position, reserved, admission, reservation, publication⟩ :=
        queue_message_sections.mp queued
      obtain ⟨_, _, frame⟩ := admit_frame admission
      obtain ⟨_, _, reservedFrame⟩ := reserve_space_frame reservation
      obtain ⟨_, quotaState, _, accounted, published⟩ := store_and_publish_frame publication
      have table : reserved.srvState = before.srvState := by rw [reservedFrame, frame]
      have quotas : reserved.quotaState = admitted.quotaState := by rw [reservedFrame]
      have checked := admit_lowers admission port
      have counted := account_lowers accounted port
      rw [quotas] at counted
      rw [published]
      refine ⟨?_, rel_trans Lowered (fun _ _ _ => Lowered.trans) checked counted⟩
      rw [← table]
      exact mark_close_sent_kept _ _ _ _
  | error stop =>
      have admission : ∃ admitting, admitMessage before call = (admitting, after) := by
        unfold queueMessage at queued
        split at queued
        · rename_i admission
          rw [(Prod.mk.inj queued).2] at admission
          exact ⟨_, admission⟩
        · rename_i admission
          split at queued
          · rw [(Prod.mk.inj queued).2] at admission
            exact ⟨_, admission⟩
          · simp at queued
      obtain ⟨admitting, admission⟩ := admission
      obtain ⟨_, _, frame⟩ := admit_frame admission
      refine ⟨?_, admit_lowers admission port⟩
      rw [frame]
      exact rel_refl Kept Kept.refl _

theorem send_carries (inst : Instance) (sender : Option ServiceRef) (call : QueueCall) :
    Carries inst (inst.send sender call).2 := by
  unfold Instance.send
  cases queued : Vchiq.queueMessage inst.state call with
  | mk result state =>
      have carried := queue_message_carries queued
      cases result with
      | ok _ => exact ⟨fun reference => (carried reference 0).1, fun port => (carried 0 port).2⟩
      | error _ => exact ⟨fun reference => (carried reference 0).1, fun port => (carried 0 port).2⟩

theorem begin_connect_carries (inst : Instance) : Carries inst inst.beginConnect.2 := by
  unfold Instance.beginConnect
  split_ifs
  · exact .refl inst
  · split
    · have sent := send_carries inst none connectCall
      cases queued : inst.send none connectCall with
      | mk result after =>
          rw [queued] at sent
          cases result with
          | ok _ => exact ⟨sent.services, sent.quotas⟩
          | error _ => exact sent
    · exact .refl inst
  · exact .refl inst

theorem begin_open_carries (inst : Instance) (srvHandle : ServiceHandle) :
    Carries inst (inst.beginOpen srvHandle).2 := by
  unfold Instance.beginOpen
  split
  · exact .refl inst
  · exact send_carries inst _ _

theorem send_close_carries (inst : Instance) (reference : ServiceRef) (service : Service) :
    Carries inst (inst.sendClose reference service).2 := by
  have sent := send_carries inst (some reference) (closeCall reference service)
  unfold Instance.sendClose
  cases queued : inst.send (some reference) (closeCall reference service) with
  | mk result after =>
      rw [queued] at sent
      cases result with
      | ok _ => exact sent.trans (carries_update after reference (kept_set_state .closeSent))
      | error stop => cases stop <;> exact sent

theorem begin_close_carries (inst : Instance) (srvHandle : ServiceHandle) :
    Carries inst (inst.beginClose srvHandle).2 := by
  unfold Instance.beginClose
  split
  · exact .refl inst
  · rename_i reference service _
    have marked := carries_update inst reference kept_mark_closing
    cases service.srvstate with
    | free | listening | hidden => exact .refl inst
    | closed | closeWait => exact marked.trans (carries_update _ reference kept_free)
    | opening => exact marked.trans (send_carries _ _ _)
    | openSync | «open» => exact marked.trans (send_close_carries _ reference service)
    | closeSent | closeRecvd => exact marked

theorem queue_data_carries (inst : Instance) (srvHandle : ServiceHandle) (data : Payload) :
    Carries inst (inst.queueMessage srvHandle data).2 := by
  unfold Instance.queueMessage
  split
  · exact .refl inst
  · exact send_carries inst _ _

theorem await_service_carries {inst next : Instance} {srvHandle : ServiceHandle}
    {judge : ServiceHandle → ServiceState → Except VchiqError Unit}
    {result : Except VchiqError Unit}
    (polled : inst.awaitService srvHandle judge = some (result, next)) : Carries inst next := by
  unfold Instance.awaitService at polled
  split at polled
  · simp at polled
  · rename_i reference service _
    split_ifs at polled
    simp only [Option.some.injEq, Prod.mk.injEq] at polled
    rw [← polled.2]
    exact carries_update inst reference kept_take_remove_event

theorem finish_connect_carries {inst next : Instance} (polled : inst.finishConnect = some next) :
    Carries inst next := by
  unfold Instance.finishConnect at polled
  split at polled
  · split_ifs at polled
    simp only [Option.some.injEq] at polled
    subst polled
    exact carries_same rfl rfl
  · simp only [Option.some.injEq] at polled
    subst polled
    exact carries_same rfl rfl

end RuspiroVchiq.Vchiq
