import Folio.Dispatcher
import Mathlib.Data.List.Perm.Basic
import Mathlib.Data.List.Induction

/-!
# The dispatcher over its history

A dispatcher is used by callers and by the receivers themselves, which may connect and disconnect
others while they receive. Whatever was done with it, its receivers stand in the order in which they
came (`InOrder`), and an event goes to all that are connected when its publication starts
(`dispatcher_in_order`).
-/

namespace Folio.Dispatcher

variable {σ : Type} {id other : String} {receiver : Receiver}

/-! ### Publishing -/

/-- The result of a publication from the answers: the first failure counts. -/
def verdict : List (String × Except String Unit) → Except ReceiverError Unit
  | [] => .ok ()
  | (_, .ok ()) :: rest => verdict rest
  | (id, .error reason) :: _ => .error ⟨id, reason⟩

/-- A result says of the answers that none is a failure, or which failure is the first. -/
def Reports (answers : List (String × Except String Unit)) : Except ReceiverError Unit → Prop
  | .ok () => ∀ answer ∈ answers, answer.2 = .ok ()
  | .error failure => ∃ before after,
      answers = before ++ (failure.receiver, .error failure.reason) :: after ∧
        ∀ answer ∈ before, answer.2 = .ok ()

theorem reports_cons_ok {answers : List (String × Except String Unit)}
    {result : Except ReceiverError Unit} (reports : Reports answers result) :
    Reports ((id, .ok ()) :: answers) result := by
  cases result with
  | ok _ =>
    intro answer member
    rcases List.mem_cons.mp member with rfl | later
    · rfl
    · exact reports answer later
  | error failure =>
    obtain ⟨before, after, split, fine⟩ := reports
    refine ⟨(id, .ok ()) :: before, after, by rw [split]; rfl, fun answer member => ?_⟩
    rcases List.mem_cons.mp member with rfl | later
    · rfl
    · exact fine answer later

theorem reports_verdict (answers : List (String × Except String Unit)) :
    Reports answers (verdict answers) := by
  induction answers with
  | nil => exact fun answer member => absurd member List.not_mem_nil
  | cons first rest ih =>
    obtain ⟨id, answer⟩ := first
    cases answer with
    | ok _ => exact reports_cons_ok ih
    | error reason => exact ⟨[], rest, rfl, fun answer member => absurd member List.not_mem_nil⟩

section

variable {m : Type → Type} [Monad m] [LawfulMonad m]
  (receive : Receiver → FollowEvent → m (Except String Unit)) (event : FollowEvent)

/-- A failure that was kept is the result, and everybody else still gets the event. -/
theorem publishTo_some (failure : ReceiverError) (entries : List (String × Receiver)) :
    publishTo receive event (some failure) entries =
      (fun _ => .error failure) <$> entries.mapM fun entry => receive entry.2 event := by
  induction entries with
  | nil => simp [publishTo]
  | cons entry rest ih =>
    obtain ⟨id, receiver⟩ := entry
    rw [publishTo, List.mapM_cons, map_bind]
    refine bind_congr fun answer => ?_
    cases answer with
    | ok _ => simp [ih]
    | error reason => simp [ih]

theorem publishTo_none (entries : List (String × Receiver)) :
    publishTo receive event none entries =
      (fun answers => verdict ((entries.map (·.1)).zip answers)) <$>
        entries.mapM fun entry => receive entry.2 event := by
  induction entries with
  | nil => simp [publishTo, verdict]
  | cons entry rest ih =>
    obtain ⟨id, receiver⟩ := entry
    rw [publishTo, List.mapM_cons, map_bind]
    refine bind_congr fun answer => ?_
    -- After a failure the loop runs with it kept, so the induction hypothesis does not apply.
    cases answer with
    | ok _ => simp [ih, verdict]
    | error reason => simp [publishTo_some, verdict]

end

theorem reports_publish (d : Dispatcher) (event : FollowEvent) :
    Reports ((d.deliver event).map fun delivery => (delivery.id, delivery.answer))
      (d.publish event) := by
  have answers : d.publish event = verdict ((d.receivers.entries.map (·.1)).zip
      (d.receivers.entries.map fun entry => entry.2.receive event)) := by
    unfold publish publishWith
    rw [publishTo_none, List.mapM_pure]
    rfl
  rw [answers, List.zip_map', deliver, List.map_map]
  exact reports_verdict _

/-! ### Histories -/

/-- A call that changes what is connected. -/
inductive Change where
  | connect (id : String) (receiver : Receiver)
  | disconnect (id : String)

/-- The id that a change is about. -/
def Change.about : Change → String
  | connect id _ => id
  | disconnect id => id

/-- The dispatcher after a change. -/
def apply (d : Dispatcher) : Change → Dispatcher
  | .connect id receiver => d.connect id receiver
  | .disconnect id => (d.disconnect id).2

/-- A receiver is connected: the last change about its id connected it. -/
def Connected (history : List Change) (id : String) (receiver : Receiver) : Prop :=
  ∃ before after, history = before ++ .connect id receiver :: after ∧ ∀ c ∈ after, c.about ≠ id

/-- The change at a position connects an id that was not connected. -/
def Enters (history : List Change) (id : String) (i : Nat) : Prop :=
  (∃ receiver, history[i]? = some (.connect id receiver)) ∧
    ∀ receiver, ¬Connected (history.take i) id receiver

/-- The latest position at which an id enters. -/
def EntersLast (history : List Change) (id : String) (i : Nat) : Prop :=
  Enters history id i ∧ ∀ j, Enters history id j → j ≤ i

/-- The receivers that a history leaves connected, in the order of their latest entries. -/
structure InOrder (history : List Change) (d : Dispatcher) : Prop where
  distinct : d.receivers.keys.Nodup
  connected : ∀ id receiver, d.receivers.get? id = some receiver ↔ Connected history id receiver
  entered : ∀ id ∈ d.receivers.keys, ∃ i, EntersLast history id i
  ordered : d.receivers.keys.Pairwise fun one other =>
    ∀ i j, EntersLast history one i → EntersLast history other j → i < j

variable {history : List Change} {c : Change} {d : Dispatcher} {i j : Nat}

theorem connected_append :
    Connected (history ++ [c]) id receiver ↔
      c = .connect id receiver ∨ c.about ≠ id ∧ Connected history id receiver := by
  constructor
  · rintro ⟨before, after, split, silent⟩
    rcases List.eq_nil_or_concat after with rfl | ⟨init, last, rfl⟩
    · exact .inl (List.append_inj_right' split rfl |> List.cons.inj).1
    · rw [List.concat_eq_append, ← List.cons_append, ← List.append_assoc] at split
      obtain ⟨rfl, same⟩ := List.append_inj' split rfl
      cases same
      exact .inr
        ⟨silent c (by simp), before, init, rfl, fun d member => silent d (by simp [member])⟩
  · rintro (rfl | ⟨different, before, after, rfl, silent⟩)
    · exact ⟨history, [], rfl, fun c member => absurd member List.not_mem_nil⟩
    · refine ⟨before, after ++ [c], by simp, fun d member => ?_⟩
      rcases List.mem_append.mp member with earlier | last
      · exact silent d earlier
      · rw [List.mem_singleton.mp last]
        exact different

theorem enters_lt (enters : Enters history id i) : i < history.length := by
  obtain ⟨⟨receiver, here⟩, _⟩ := enters
  exact (List.getElem?_eq_some_iff.mp here).1

theorem enters_append :
    Enters (history ++ [c]) id i ↔ Enters history id i ∨
      i = history.length ∧ (∃ receiver, c = .connect id receiver) ∧
        ∀ receiver, ¬Connected history id receiver := by
  rcases Nat.lt_trichotomy i history.length with before | rfl | past
  · unfold Enters
    rw [List.getElem?_append_left before, List.take_append_of_le_length (Nat.le_of_lt before)]
    simp [Nat.ne_of_lt before]
  · simp [Enters]
  · have out : ¬Enters (history ++ [c]) id i := fun enters => by
      have bound := enters_lt enters
      rw [List.length_append, List.length_singleton] at bound
      omega
    have none : ¬Enters history id i := fun enters => Nat.lt_asymm past (enters_lt enters)
    simp [out, none, Nat.ne_of_gt past]

/-- A change that does not let an id in leaves the latest entry of the id where it was. -/
theorem entersLast_kept
    (stays : (∃ receiver, c = .connect id receiver) → ∃ receiver, Connected history id receiver) :
    EntersLast (history ++ [c]) id i ↔ EntersLast history id i := by
  have same : ∀ j, Enters (history ++ [c]) id j ↔ Enters history id j := by
    intro j
    rw [enters_append, or_iff_left]
    rintro ⟨_, connects, absent⟩
    obtain ⟨receiver, connected⟩ := stays connects
    exact absent receiver connected
  simp only [EntersLast, same]

theorem entersLast_new (absent : ∀ receiver, ¬Connected history id receiver) :
    EntersLast (history ++ [.connect id receiver]) id i ↔ i = history.length := by
  have enters : Enters (history ++ [.connect id receiver]) id history.length :=
    enters_append.mpr (.inr ⟨rfl, ⟨receiver, rfl⟩, absent⟩)
  constructor
  · rintro ⟨entered, last⟩
    have bound := enters_lt entered
    have least := last _ enters
    rw [List.length_append, List.length_singleton] at bound
    omega
  · rintro rfl
    refine ⟨enters, fun j entered => ?_⟩
    have bound := enters_lt entered
    rw [List.length_append, List.length_singleton] at bound
    omega

theorem mem_keys_iff {t : Table String Receiver} :
    id ∈ t.keys ↔ ∃ receiver, t.get? id = some receiver := by
  rw [← Option.isSome_iff_exists, ← not_iff_not, ← Table.get?_eq_none_iff,
    Option.not_isSome_iff_eq_none]

theorem InOrder.mem_keys (inOrder : InOrder history d) :
    id ∈ d.receivers.keys ↔ ∃ receiver, Connected history id receiver := by
  simp only [mem_keys_iff, inOrder.connected]

theorem inOrder_empty : InOrder [] ⟨.empty⟩ where
  distinct := List.nodup_nil
  connected := by
    intro id receiver
    rw [Table.get?_empty]
    simp [Connected]
  entered := by simp [Table.keys, Table.empty]
  ordered := List.Pairwise.nil

theorem connected_connect (inOrder : InOrder history d) (id : String) (receiver : Receiver)
    (other : String) (found : Receiver) :
    (d.connect id receiver).receivers.get? other = some found ↔
      Connected (history ++ [.connect id receiver]) other found := by
  rw [connected_append, ← inOrder.connected, connect, Table.get?_insert]
  by_cases same : id = other <;> simp [same, Change.about]

/-- A replaced receiver keeps its place. -/
theorem inOrder_replace (inOrder : InOrder history d) (known : id ∈ d.receivers.keys)
    (receiver : Receiver) :
    InOrder (history ++ [.connect id receiver]) (d.connect id receiver) := by
  have keys : (d.connect id receiver).receivers.keys = d.receivers.keys :=
    Table.keys_insert_known d.receivers id receiver known
  have kept : ∀ {other i}, EntersLast (history ++ [.connect id receiver]) other i ↔
      EntersLast history other i := by
    intro other i
    apply entersLast_kept
    rintro ⟨found, same⟩
    cases same
    exact inOrder.mem_keys.mp known
  refine ⟨keys ▸ inOrder.distinct, connected_connect inOrder id receiver, ?_, ?_⟩
  · intro other member
    obtain ⟨i, entered⟩ := inOrder.entered other (keys ▸ member)
    exact ⟨i, kept.mpr entered⟩
  · rw [keys]
    simpa only [kept] using inOrder.ordered

/-- A new receiver goes to the end. -/
theorem inOrder_enter (inOrder : InOrder history d) (new : id ∉ d.receivers.keys)
    (receiver : Receiver) :
    InOrder (history ++ [.connect id receiver]) (d.connect id receiver) := by
  have keys : (d.connect id receiver).receivers.keys = d.receivers.keys ++ [id] :=
    Table.keys_insert_new d.receivers id receiver new
  have absent : ∀ found, ¬Connected history id found := fun found connected =>
    new (inOrder.mem_keys.mpr ⟨found, connected⟩)
  have kept : ∀ {other i}, other ∈ d.receivers.keys →
      (EntersLast (history ++ [.connect id receiver]) other i ↔ EntersLast history other i) := by
    intro other i member
    apply entersLast_kept
    rintro ⟨found, same⟩
    cases same
    exact absurd member new
  refine ⟨?_, connected_connect inOrder id receiver, ?_, ?_⟩
  · rw [keys, List.nodup_append]
    refine ⟨inOrder.distinct, List.pairwise_singleton _ _, fun one member other last same => ?_⟩
    rw [List.mem_singleton.mp last] at same
    exact new (same ▸ member)
  · intro other member
    rw [keys, List.mem_append, List.mem_singleton] at member
    rcases member with old | rfl
    · obtain ⟨i, entered⟩ := inOrder.entered other old
      exact ⟨i, (kept old).mpr entered⟩
    · exact ⟨history.length, (entersLast_new absent).mpr rfl⟩
  · rw [keys, List.pairwise_append]
    refine ⟨?_, List.pairwise_singleton _ _, ?_⟩
    · refine inOrder.ordered.imp_of_mem fun one other before i j entered entered' => ?_
      exact before i j ((kept one).mp entered) ((kept other).mp entered')
    · -- The id enters where the history ended, and every other one entered before that.
      intro one member other last i j entered entered'
      rw [List.mem_singleton.mp last] at entered'
      rw [(entersLast_new absent).mp entered']
      exact enters_lt ((kept member).mp entered).1

theorem inOrder_connect (inOrder : InOrder history d) (id : String) (receiver : Receiver) :
    InOrder (history ++ [.connect id receiver]) (d.connect id receiver) := by
  by_cases known : id ∈ d.receivers.keys
  · exact inOrder_replace inOrder known receiver
  · exact inOrder_enter inOrder known receiver

theorem inOrder_disconnect (inOrder : InOrder history d) (id : String) :
    InOrder (history ++ [.disconnect id]) (d.disconnect id).2 := by
  have keys :
      (d.disconnect id).2.receivers.keys = d.receivers.keys.filter fun other => other ≠ id :=
    Table.keys_erase d.receivers id
  have kept : ∀ {other i}, EntersLast (history ++ [.disconnect id]) other i ↔
      EntersLast history other i := by
    intro other i
    apply entersLast_kept
    rintro ⟨found, same⟩
    cases same
  refine ⟨?_, ?_, ?_, ?_⟩
  · rw [keys]
    exact inOrder.distinct.filter _
  · intro other found
    rw [connected_append, ← inOrder.connected, disconnect, Table.get?_erase]
    by_cases same : id = other <;> simp [same, Change.about]
  · intro other member
    rw [keys] at member
    obtain ⟨i, entered⟩ := inOrder.entered other (List.mem_of_mem_filter member)
    exact ⟨i, kept.mpr entered⟩
  · rw [keys]
    simp only [kept]
    exact inOrder.ordered.filter _

theorem inOrder_apply (inOrder : InOrder history d) (c : Change) :
    InOrder (history ++ [c]) (d.apply c) := by
  cases c with
  | connect id receiver => exact inOrder_connect inOrder id receiver
  | disconnect id => exact inOrder_disconnect inOrder id

theorem disconnect_removed (inOrder : InOrder history d) (id : String) :
    (d.disconnect id).1 = true ↔ ∃ receiver, Connected history id receiver := by
  rw [← inOrder.mem_keys]
  simp only [disconnect, Table.size, Table.erase, decide_eq_true_eq,
    List.length_filter_lt_length_iff_exists, Table.keys, List.mem_map]
  simp

theorem disconnect_split (inOrder : InOrder history d) {before after : List (String × Receiver)}
    (split : d.receivers.entries = before ++ (id, receiver) :: after) :
    (d.disconnect id).2.receivers.entries = before ++ after := by
  have distinct := inOrder.distinct
  simp only [Table.keys, split, List.map_append, List.map_cons, List.nodup_append,
    List.nodup_cons] at distinct
  obtain ⟨_, ⟨notAfter, _⟩, apart⟩ := distinct
  have others : ∀ entry ∈ before ++ after, entry.1 ≠ id := by
    intro entry member same
    rcases List.mem_append.mp member with left | right
    · exact apart entry.1 (List.mem_map_of_mem left) id List.mem_cons_self same
    · exact notAfter (same ▸ List.mem_map_of_mem right)
  simp only [disconnect, Table.erase, split, List.filter_append, List.filter_cons, ne_eq,
    not_true_eq_false, decide_false, Bool.false_eq_true, if_false]
  rw [← List.filter_append, List.filter_eq_self]
  intro entry member
  simpa using others entry member

theorem disconnect_absent (refused : (d.disconnect id).1 = false) : (d.disconnect id).2 = d := by
  obtain ⟨⟨entries⟩⟩ := d
  simp only [disconnect, Table.size, Table.erase] at refused ⊢
  have long := Nat.le_of_not_lt (of_decide_eq_false refused)
  rw [List.filter_sublist.eq_of_length_le long]

theorem count_eq (inOrder : InOrder history d) {ids : List String} (distinct : ids.Nodup)
    (listed : ∀ id, id ∈ ids ↔ ∃ receiver, Connected history id receiver) :
    d.count = ids.length := by
  have same : d.receivers.keys.Perm ids :=
    (List.perm_ext_iff_of_nodup inOrder.distinct distinct).mpr fun id =>
      inOrder.mem_keys.trans (listed id).symm
  rw [← same.length_eq, Table.keys, List.length_map]
  rfl

/-! ### Dispatchers in use -/

/-- What receivers do with events: they answer, connect and disconnect receivers meanwhile, and
remember. -/
abbrev Behaviour (σ : Type) :=
  Receiver → FollowEvent → σ → Except String Unit × List Change × σ

/-- A dispatcher in use, with all changes so far, whoever made them, and what receivers remember. -/
structure Live (σ : Type) where
  dispatcher : Dispatcher
  history : List Change
  memory : σ

namespace Live

/-- Makes a change. -/
def change (live : Live σ) (c : Change) : Live σ :=
  { live with dispatcher := live.dispatcher.apply c, history := live.history ++ [c] }

/-- Hands an event to a receiver. -/
def receive (behaviour : Behaviour σ) (receiver : Receiver) (event : FollowEvent) :
    StateM (Live σ) (Except String Unit) := fun live =>
  let (answer, changes, memory) := behaviour receiver event live.memory
  (answer, { changes.foldl change live with memory })

/-- A call of whoever holds the dispatcher. -/
inductive Action where
  | change (c : Change)
  | publish (event : FollowEvent)

/-- Makes a call. -/
def perform (behaviour : Behaviour σ) (live : Live σ) : Action → Live σ
  | .change c => live.change c
  | .publish event => ((live.dispatcher.publishWith (receive behaviour) event).run live).2

/-- A dispatcher after calls, from one that nobody has used. -/
def after (behaviour : Behaviour σ) (memory : σ) (actions : List Action) : Live σ :=
  actions.foldl (perform behaviour) ⟨⟨.empty⟩, [], memory⟩

variable {behaviour : Behaviour σ} {live : Live σ}

theorem inOrder_change (inOrder : InOrder live.history live.dispatcher) (c : Change) :
    InOrder (live.change c).history (live.change c).dispatcher :=
  inOrder_apply inOrder c

theorem inOrder_receive (behaviour : Behaviour σ)
    (inOrder : InOrder live.history live.dispatcher) (receiver : Receiver) (event : FollowEvent) :
    InOrder ((receive behaviour receiver event).run live).2.history
      ((receive behaviour receiver event).run live).2.dispatcher := by
  have changed : ∀ (changes : List Change) {live : Live σ},
      InOrder live.history live.dispatcher →
        InOrder (changes.foldl change live).history (changes.foldl change live).dispatcher := by
    intro changes
    induction changes with
    | nil => exact fun inOrder => inOrder
    | cons c rest ih => exact fun inOrder => ih (inOrder_change inOrder c)
  exact changed _ inOrder

theorem inOrder_publishTo (event : FollowEvent) (entries : List (String × Receiver))
    (first : Option ReceiverError) (inOrder : InOrder live.history live.dispatcher) :
    InOrder ((publishTo (receive behaviour) event first entries).run live).2.history
      ((publishTo (receive behaviour) event first entries).run live).2.dispatcher := by
  -- Any receiver may change the dispatcher, so the induction goes through all that can be live.
  induction entries generalizing first live with
  | nil =>
    cases first with
    | none => exact inOrder
    | some failure => exact inOrder
  | cons entry rest ih =>
    have received := inOrder_receive behaviour inOrder entry.2 event
    rw [publishTo, StateT.run_bind]
    generalize (receive behaviour entry.2 event).run live = outcome at received ⊢
    obtain ⟨answer, next⟩ := outcome
    cases answer with
    | ok _ => exact ih first received
    | error reason => exact ih _ received

theorem inOrder_perform (inOrder : InOrder live.history live.dispatcher) (action : Action) :
    InOrder (perform behaviour live action).history (perform behaviour live action).dispatcher := by
  cases action with
  | change c => exact inOrder_change inOrder c
  | publish event => exact inOrder_publishTo event _ none inOrder

theorem inOrder_after (behaviour : Behaviour σ) (memory : σ) (actions : List Action) :
    InOrder (after behaviour memory actions).history
      (after behaviour memory actions).dispatcher := by
  induction actions using List.reverseRecOn with
  | nil => exact inOrder_empty
  | append_singleton actions action ih =>
    unfold after at ih ⊢
    rw [List.foldl_append]
    exact inOrder_perform ih action

/-! ### What the history holds -/

/-- The change that a call makes. -/
def Action.change? : Action → Option Change
  | .change c => some c
  | .publish _ => none

/-- No receiver connects or disconnects others. -/
def Quiet (behaviour : Behaviour σ) : Prop :=
  ∀ receiver event memory, (behaviour receiver event memory).2.1 = []

theorem history_receive (behaviour : Behaviour σ) (receiver : Receiver) (event : FollowEvent)
    (live : Live σ) :
    ((receive behaviour receiver event).run live).2.history =
      live.history ++ (behaviour receiver event live.memory).2.1 := by
  have changed : ∀ (changes : List Change) (live : Live σ),
      (changes.foldl change live).history = live.history ++ changes := by
    intro changes
    induction changes with
    | nil => simp
    | cons c rest ih =>
      intro live
      rw [List.foldl_cons, ih]
      simp [change]
  exact changed _ live

theorem history_publishTo (behaviour : Behaviour σ) (event : FollowEvent)
    (entries : List (String × Receiver)) (first : Option ReceiverError) (live : Live σ) :
    ∃ made, ((publishTo (receive behaviour) event first entries).run live).2.history =
        live.history ++ made ∧ (Quiet behaviour → made = []) := by
  induction entries generalizing first live with
  | nil =>
    cases first with
    | none => exact ⟨[], (List.append_nil _).symm, fun _ => rfl⟩
    | some failure => exact ⟨[], (List.append_nil _).symm, fun _ => rfl⟩
  | cons entry rest ih =>
    have received := history_receive behaviour entry.2 event live
    have later : ∀ (first : Option ReceiverError) (next : Live σ),
        next.history = live.history ++ (behaviour entry.2 event live.memory).2.1 →
        ∃ made, ((publishTo (receive behaviour) event first rest).run next).2.history =
            live.history ++ made ∧ (Quiet behaviour → made = []) := by
      intro first next reached
      obtain ⟨made, extended, none⟩ := ih first next
      refine ⟨_, by rw [extended, reached, List.append_assoc], fun quiet => ?_⟩
      rw [quiet, none quiet, List.append_nil]
    rw [publishTo, StateT.run_bind]
    generalize (receive behaviour entry.2 event).run live = outcome at received ⊢
    obtain ⟨answer, next⟩ := outcome
    cases answer with
    | ok _ => exact later _ next received
    | error reason => exact later _ next received

theorem history_after (behaviour : Behaviour σ) (memory : σ) (actions : List Action) :
    (actions.filterMap Action.change?).Sublist (after behaviour memory actions).history ∧
      (Quiet behaviour →
        (after behaviour memory actions).history = actions.filterMap Action.change?) := by
  induction actions using List.reverseRecOn with
  | nil => exact ⟨List.Sublist.refl _, fun _ => rfl⟩
  | append_singleton actions action ih =>
    unfold after at ih ⊢
    rw [List.foldl_append, List.filterMap_append]
    generalize actions.foldl (perform behaviour) ⟨⟨.empty⟩, [], memory⟩ = live at ih
    obtain ⟨sublist, exactly⟩ := ih
    cases action with
    | change c =>
      exact ⟨sublist.append (List.Sublist.refl [c]),
        fun quiet => congrArg (· ++ [c]) (exactly quiet)⟩
    | publish event =>
      obtain ⟨made, extended, none⟩ :=
        history_publishTo behaviour event live.dispatcher.receivers.entries .none live
      have history : (perform behaviour live (.publish event)).history = live.history ++ made :=
        extended
      rw [List.foldl_cons, List.foldl_nil, history]
      refine ⟨sublist.append (List.nil_sublist made), fun quiet => ?_⟩
      rw [none quiet, exactly quiet]
      rfl

end Live

/-- Whatever was done with a dispatcher, its ids are distinct and in the order of their latest
entries, disconnecting removes one entry or finds none, and publishing hands the event to the
receivers that are connected at its start, to each once and in order, whatever they do in any
setting, and then reports the first failure. -/
theorem dispatcher_in_order (behaviour : Behaviour σ) (memory : σ) (actions : List Live.Action) :
    let live := Live.after behaviour memory actions
    (actions.filterMap Live.Action.change?).Sublist live.history ∧
    (Live.Quiet behaviour → live.history = actions.filterMap Live.Action.change?) ∧
    InOrder live.history live.dispatcher ∧
    (∀ ids : List String, ids.Nodup →
      (∀ id, id ∈ ids ↔ ∃ receiver, Connected live.history id receiver) →
        live.dispatcher.count = ids.length) ∧
    (∀ id, ((live.dispatcher.disconnect id).1 = true ↔
        ∃ receiver, Connected live.history id receiver) ∧
      ((live.dispatcher.disconnect id).1 = false →
        (live.dispatcher.disconnect id).2 = live.dispatcher)) ∧
    (∀ before id receiver after,
      live.dispatcher.receivers.entries = before ++ (id, receiver) :: after →
        (live.dispatcher.disconnect id).2.receivers.entries = before ++ after) ∧
    (∀ (m : Type → Type) [Monad m] [LawfulMonad m]
      (receive : Receiver → FollowEvent → m (Except String Unit)) (event : FollowEvent),
      live.dispatcher.publishWith receive event =
        (fun answers => verdict (live.dispatcher.receivers.keys.zip answers)) <$>
          live.dispatcher.receivers.entries.mapM fun entry => receive entry.2 event) ∧
    (∀ answers, Reports answers (verdict answers)) ∧
    ∀ event, Reports
      ((live.dispatcher.deliver event).map fun delivery => (delivery.id, delivery.answer))
      (live.dispatcher.publish event) := by
  intro live
  have inOrder : InOrder live.history live.dispatcher :=
    Live.inOrder_after behaviour memory actions
  obtain ⟨called, quietly⟩ := Live.history_after behaviour memory actions
  refine ⟨called, quietly, inOrder, fun ids => count_eq inOrder,
    fun id => ⟨disconnect_removed inOrder id, disconnect_absent⟩, ?_, ?_, reports_verdict,
    reports_publish live.dispatcher⟩
  · intro before id receiver after split
    exact disconnect_split inOrder split
  · intro m _ _ receive event
    exact publishTo_none receive event live.dispatcher.receivers.entries

/-- Receivers of which one shows another out while it receives. -/
def ushers : Behaviour Unit := fun receiver event _ =>
  (receiver.receive event, if receiver.label? = some "usher" then [.disconnect "c"] else [], ())

/-- One receiver is replaced, and another comes back after it has left. -/
def seating : List Live.Action :=
  [.change (.connect "a" (.steady "guest" none)),
   .change (.connect "b" (.steady "guest" (some "b fails"))),
   .change (.connect "c" (.steady "guest" (some "c fails"))),
   .change (.disconnect "b"),
   .change (.connect "b" (.steady "guest" (some "b fails"))),
   .change (.connect "a" (.steady "usher" none))]

def follow : FollowEvent :=
  ⟨.followed, ⟨⟨⟨1⟩⟩, ⟨"lea", by decide, by decide, by decide +kernel⟩⟩,
    ⟨⟨⟨2⟩⟩, ⟨"max", by decide, by decide, by decide +kernel⟩⟩, none⟩

theorem dispatcher_in_order_ushers :
    (Live.after ushers () seating).dispatcher.count = 3 ∧
    ((Live.after ushers () seating).dispatcher.disconnect "c").1 = true ∧
    ((Live.after ushers () seating).dispatcher.disconnect "c").2.receivers.keys = ["a", "b"] ∧
    (((Live.after ushers () seating).dispatcher.publishWith (Live.receive ushers) follow).run
      (Live.after ushers () seating)).1 = .error ⟨"c", "c fails"⟩ := by
  obtain ⟨_, _, inOrder, count, removed, split, publishes, _, _⟩ :=
    dispatcher_in_order ushers () seating
  have keys : (Live.after ushers () seating).dispatcher.receivers.keys = ["a", "c", "b"] := rfl
  refine ⟨?_, ?_, ?_, ?_⟩
  · exact count ["a", "c", "b"] (by decide) fun id => keys ▸ inOrder.mem_keys
  · exact (removed "c").1.mpr (inOrder.mem_keys.mp (keys ▸ by decide))
  · have left := split [("a", .steady "usher" none)] "c" _ _ rfl
    rw [Table.keys, left]
    rfl
  · rw [publishes (StateM (Live Unit))]
    rfl

end Folio.Dispatcher
