import QsTie.GatewayA.StixExtractor
import QsTie.Lib.Trace
import QsTie.Lib.Transition
import Mathlib.Data.List.Forall2

/-!
# The MISP listener (`gateway_a/ingestion/misp_listener.py`)

The inner loop of `start` receives one message after the other.  A payload that
fails with a `JSONDecodeError` is skipped there; any other exception leaves the
inner loop, closes the socket and sleeps, and what is published until the next
subscription is lost.  `json.loads` is a parameter: it may also fail in other ways
(an integer literal that is too long, a nesting that is too deep).

`WellShaped` says which parsed values the loop body takes without an exception.
Messages that are tolerated keep the subscription, and the queue is then the
relevant events in order (`undisturbed_iff`); the first message that is not
closes it.
-/

namespace QsTie.GatewayA.MispListener

open QsTie.Lib

/-! ### One message -/

/-- `message.partition(" ")`, without the separator. -/
def partition (message : String) : String × String :=
  (String.ofList (message.toList.takeWhile (· != ' ')),
   String.ofList ((message.toList.dropWhile (· != ' ')).drop 1))

/-- `{tag.get("name")}`: only a hashable name can be put in a set. -/
def tagNameMember (tag : PyVal) : Except PyExc PyVal :=
  match getDefault tag "name" .none with
  | .error e => .error e
  | .ok name =>
    if name.hashable then .ok name else .error ⟨.typeError, "unhashable type"⟩

/-- The names of the set comprehension, in the order of the tags. -/
def tagNameMembers : List PyVal → Except PyExc (List PyVal)
  | [] => .ok []
  | tag :: tags =>
    match tagNameMember tag with
    | .error e => .error e
    | .ok name =>
      match tagNameMembers tags with
      | .error e => .error e
      | .ok names => .ok (name :: names)

/-- `_is_relevant`. -/
def isRelevant (tagsFilter : List String) (eventData : PyVal) : Except PyExc Bool :=
  if tagsFilter.isEmpty then .ok true
  else
    match getDefault eventData "Event" (.dict []) with
    | .error e => .error e
    | .ok event =>
      if !event.truthy then .ok false
      else
        match getDefault event "Tag" (.list []) with
        | .error e => .error e
        | .ok tags =>
          match tags.iterate with
          | .error e => .error e
          | .ok tags =>
            match tagNameMembers tags with
            | .error e => .error e
            | .ok names => .ok (names.any fun name => tagsFilter.any fun tag => name.isStr tag)

/-- `d[key] = v`. -/
def setItem (d : PyVal) (key : String) (v : PyVal) : Except PyExc PyVal :=
  match d with
  | .dict items => .ok (.dict ((.str key, v) :: items))
  | .list _ => .error ⟨.typeError, "list indices must be integers or slices, not str"⟩
  | _ => .error ⟨.typeError, "object does not support item assignment"⟩

section Listener

variable (loads : String → Except PyExc PyVal) (tagsFilter : List String)

/-- The body of the inner loop at the time `t`: the event that is put, or the exception that
    leaves the loop. -/
def handle (message : String) (t : Int) : Except PyExc (Option PyVal) :=
  if (partition message).1 ≠ "misp_json" then .ok none
  else
    match loads (partition message).2 with
    | .error e => if e.isJsonDecodeError then .ok none else .error e
    | .ok eventData =>
      match isRelevant tagsFilter eventData with
      | .error e => .error e
      | .ok false => .ok none
      | .ok true =>
        match setItem eventData "_t_received" (.int t) with
        | .error e => .error e
        | .ok event => .ok (some event)

/-! ### The listener -/

/-- The messages still to come, what was put on the queue, whether the socket is subscribed
    and how often it was closed. -/
structure Listener where
  pending : List String
  queue : List PyVal
  subscribed : Bool
  closes : Nat

/-- A message is received at the time `t`, or the socket is opened again after `lost`
    messages went by. -/
inductive Move where
  | receive (t : Int)
  | reconnect (lost : Nat)

def start (messages : List String) : Listener := ⟨messages, [], true, 0⟩

def step (s : Listener) : Move → Option Listener
  | .receive t =>
    if s.subscribed then
      match s.pending with
      | [] => none
      | message :: pending =>
        match handle loads tagsFilter message t with
        | .error _ =>
          some { s with pending := pending, subscribed := false, closes := s.closes + 1 }
        | .ok none => some { s with pending := pending }
        | .ok (some event) => some { s with pending := pending, queue := s.queue ++ [event] }
    else none
  | .reconnect lost =>
    if s.subscribed then none
    else some { s with pending := s.pending.drop lost, subscribed := true }

/-! ### What should be put -/

/-- The event of a message on the topic that parses to an object `_is_relevant` accepts. -/
def accepted (message : String) : Option PyDict :=
  if (partition message).1 = "misp_json" then
    match loads (partition message).2 with
    | .ok (.dict items) =>
      match isRelevant tagsFilter (.dict items) with
      | .ok true => some items
      | _ => none
    | _ => none
  else none

/-- The event with `_t_received` set. -/
def Stamped (items : PyDict) (event : PyVal) : Prop :=
  ∃ t : Int, event = .dict ((.str "_t_received", .int t) :: items)

/-- No message affects another: in every state of every run the subscription was never closed,
    and the queue holds, in order, the accepted events of the messages so far. -/
def Undisturbed (messages : List String) : Prop :=
  ∀ s, Reach (step loads tagsFilter) anyStep (start messages) s →
    s.closes = 0 ∧ ∃ received, messages = received ++ s.pending ∧
      List.Forall₂ Stamped (received.filterMap (accepted loads tagsFilter)) s.queue

/-! ### Shapes -/

/-- Every tag is a dict, and its name can be put in a set. -/
def TagsShaped (tags : PyVal) : Prop :=
  ∃ items, tags.iterate = .ok items ∧ ∀ tag ∈ items, ∃ entries, tag = .dict entries ∧
    ((PyDict.get? entries "name").getD .none).hashable = true

/-- Nothing, or a dict with shaped tags. -/
def EventShaped (event : PyVal) : Prop :=
  event.truthy = false ∨ ∃ items, event = .dict items ∧
    TagsShaped ((PyDict.get? items "Tag").getD (.list []))

/-- An object; under a filter its event is shaped as well. -/
def WellShaped (eventData : PyVal) : Prop :=
  ∃ items, eventData = .dict items ∧
    (tagsFilter = [] ∨ EventShaped ((PyDict.get? items "Event").getD (.dict [])))

/-- On another topic, no JSON, or of the right shape. -/
def Tolerated (message : String) : Prop :=
  (partition message).1 = "misp_json" →
    (∃ e, loads (partition message).2 = .error e ∧ e.isJsonDecodeError = true) ∨
    ∃ eventData, loads (partition message).2 = .ok eventData ∧ WellShaped tagsFilter eventData

end Listener

theorem tagNameMember_isOk {tag : PyVal} :
    (∃ name, tagNameMember tag = .ok name) ↔ ∃ entries, tag = .dict entries ∧
      ((PyDict.get? entries "name").getD .none).hashable = true := by
  cases tag with
  | dict entries =>
    simp only [tagNameMember, getDefault, PyVal.dict.injEq, exists_eq_left']
    split
    · rename_i hname; simp [hname]
    · rename_i hname; simp [hname]
  | _ => simp [tagNameMember, getDefault]

theorem tagNameMembers_isOk {tags : List PyVal} :
    (∃ names, tagNameMembers tags = .ok names) ↔
      ∀ tag ∈ tags, ∃ name, tagNameMember tag = .ok name := by
  induction tags with
  | nil => simp [tagNameMembers]
  | cons tag tags ih =>
    rw [List.forall_mem_cons, ← ih, tagNameMembers]
    cases tagNameMember tag with
    | error e => simp
    | ok name =>
      cases tagNameMembers tags with
      | error e => simp
      | ok names => simp

theorem tagsShaped_iff {tags : PyVal} :
    TagsShaped tags ↔
      ∃ items names, tags.iterate = .ok items ∧ tagNameMembers items = .ok names := by
  unfold TagsShaped
  constructor
  · rintro ⟨items, hitems, htags⟩
    obtain ⟨names, hnames⟩ := tagNameMembers_isOk.mpr fun tag htag =>
      tagNameMember_isOk.mpr (htags tag htag)
    exact ⟨items, names, hitems, hnames⟩
  · rintro ⟨items, names, hitems, hnames⟩
    refine ⟨items, hitems, ?_⟩
    intro tag htag
    exact tagNameMember_isOk.mp (tagNameMembers_isOk.mp ⟨names, hnames⟩ tag htag)

/-- Under a filter `_is_relevant` returns exactly on well-shaped values. -/
theorem isRelevant_isOk {tagsFilter : List String} (hfilter : tagsFilter ≠ [])
    {eventData : PyVal} :
    (∃ b, isRelevant tagsFilter eventData = .ok b) ↔ WellShaped tagsFilter eventData := by
  have hnonempty : tagsFilter.isEmpty = false := by simpa using hfilter
  unfold isRelevant WellShaped
  simp only [hnonempty, Bool.false_eq_true, if_false, hfilter, false_or]
  cases eventData with
  | dict items =>
    simp only [getDefault, PyVal.dict.injEq, exists_eq_left']
    unfold EventShaped
    cases htruthy : ((PyDict.get? items "Event").getD (.dict [])).truthy with
    | false => simp
    | true =>
      simp only [Bool.not_true, Bool.false_eq_true, if_false, Bool.true_eq_false, false_or]
      cases (PyDict.get? items "Event").getD (.dict []) with
      | dict eventItems =>
        simp only [PyVal.dict.injEq, exists_eq_left']
        rw [tagsShaped_iff]
        cases ((PyDict.get? eventItems "Tag").getD (.list [])).iterate with
        | error e => simp
        | ok tags =>
          cases hnames : tagNameMembers tags with
          | error e => simp [hnames]
          | ok names => simp [hnames]
      | _ => simp
  | _ => simp [getDefault]

section Listener

variable {loads : String → Except PyExc PyVal} {tagsFilter : List String}

/-- A tolerated message puts its event, if it has one to put, and nothing else. -/
theorem handle_of_tolerated {message : String} (h : Tolerated loads tagsFilter message)
    (t : Int) :
    handle loads tagsFilter message t = .ok ((accepted loads tagsFilter message).map fun items =>
      .dict ((.str "_t_received", .int t) :: items)) := by
  unfold handle accepted
  by_cases htopic : (partition message).1 = "misp_json"
  · simp only [htopic, ne_eq, not_true_eq_false, if_false, if_true]
    rcases h htopic with ⟨e, hloads, hdecode⟩ | ⟨eventData, hloads, items, rfl, hshaped⟩
    · simp [hloads, hdecode]
    · simp only [hloads]
      have hrelevant : ∃ b, isRelevant tagsFilter (.dict items) = .ok b := by
        by_cases hfilter : tagsFilter = []
        · exact ⟨true, by simp [isRelevant, hfilter]⟩
        · exact (isRelevant_isOk hfilter).mpr ⟨items, rfl, hshaped⟩
      obtain ⟨b, hb⟩ := hrelevant
      cases b with
      | false => simp [hb]
      | true => simp [hb, setItem]
  · simp [htopic]

/-- Any other message leaves the loop with an exception. -/
theorem handle_of_not_tolerated {message : String} (h : ¬ Tolerated loads tagsFilter message)
    (t : Int) : ∃ e, handle loads tagsFilter message t = .error e := by
  unfold Tolerated at h
  push Not at h
  obtain ⟨htopic, herror, hok⟩ := h
  unfold handle
  simp only [htopic, ne_eq, not_true_eq_false, if_false]
  cases hloads : loads (partition message).2 with
  | error e =>
    have hdecode : e.isJsonDecodeError = false := by simpa using herror e hloads
    simp [hdecode]
  | ok eventData =>
    have hshape := hok eventData hloads
    by_cases hfilter : tagsFilter = []
    · -- without a filter everything is relevant, and only a dict can be stamped
      have hrelevant : isRelevant tagsFilter eventData = .ok true := by
        simp [isRelevant, hfilter]
      simp only [hrelevant]
      cases eventData with
      | dict items => exact absurd ⟨items, rfl, Or.inl hfilter⟩ hshape
      | _ => exact ⟨_, rfl⟩
    · cases hrelevant : isRelevant tagsFilter eventData with
      | error e => exact ⟨e, by simp only [hrelevant]⟩
      | ok b => exact absurd ((isRelevant_isOk hfilter).mp ⟨b, hrelevant⟩) hshape

/-! ### Runs -/

/-- One message received without an exception. -/
theorem step_receive {s : Listener} {message : String} {pending : List String}
    (hsubscribed : s.subscribed = true) (hpending : s.pending = message :: pending)
    (htolerated : Tolerated loads tagsFilter message) (t : Int) :
    step loads tagsFilter s (.receive t) = some { s with
      pending := pending
      queue := s.queue ++ ((accepted loads tagsFilter message).map fun items =>
        PyVal.dict ((.str "_t_received", .int t) :: items)).toList } := by
  simp only [step, hsubscribed, if_true, hpending, handle_of_tolerated htolerated]
  cases accepted loads tagsFilter message with
  | none => simp
  | some items => simp

/-- What is known of a run over tolerated messages. -/
structure Clean (loads : String → Except PyExc PyVal) (tagsFilter : List String)
    (messages : List String) (s : Listener) : Prop where
  subscribed : s.subscribed = true
  closes : s.closes = 0
  queue : ∃ received, messages = received ++ s.pending ∧
    List.Forall₂ Stamped (received.filterMap (accepted loads tagsFilter)) s.queue

theorem Clean.step {messages : List String} {s s' : Listener} {move : Move}
    (htolerated : ∀ message ∈ messages, Tolerated loads tagsFilter message)
    (h : Clean loads tagsFilter messages s)
    (hstep : step loads tagsFilter s move = some s') : Clean loads tagsFilter messages s' := by
  obtain ⟨hsubscribed, hcloses, received, hmessages, hqueue⟩ := h
  cases move with
  | reconnect lost => simp [MispListener.step, hsubscribed] at hstep
  | receive t =>
    cases hpending : s.pending with
    | nil => simp [MispListener.step, hsubscribed, hpending] at hstep
    | cons message pending =>
      have hmem : message ∈ messages := by rw [hmessages, hpending]; simp
      rw [step_receive hsubscribed hpending (htolerated message hmem)] at hstep
      obtain rfl := Option.some.inj hstep
      refine ⟨hsubscribed, hcloses, received ++ [message], ?_, ?_⟩
      · rw [hmessages, hpending]; simp
      · rw [List.filterMap_append]
        refine List.rel_append hqueue ?_
        cases haccepted : accepted loads tagsFilter message with
        | none => simp [haccepted]
        | some items =>
          simp only [List.filterMap_cons, haccepted, List.filterMap_nil, Option.map_some,
            Option.toList_some]
          exact .cons ⟨t, rfl⟩ .nil

/-- The messages before the first one that is not tolerated are received one by one. -/
theorem reach_behind {messages : List String}
    (before : List String) {pending : List String}
    (hbefore : ∀ message ∈ before, Tolerated loads tagsFilter message) {s : Listener}
    (hs : Reach (step loads tagsFilter) anyStep (start messages) s)
    (hsubscribed : s.subscribed = true) (hpending : s.pending = before ++ pending) :
    ∃ s', Reach (step loads tagsFilter) anyStep (start messages) s' ∧ s'.subscribed = true ∧
      s'.pending = pending := by
  induction before generalizing s with
  | nil => exact ⟨s, hs, hsubscribed, hpending⟩
  | cons message before ih =>
    have hstep := step_receive hsubscribed hpending (hbefore message (by simp)) 0
    exact ih (fun m hm => hbefore m (by simp [hm])) (hs.next trivial hstep) hsubscribed rfl

/-- **One message never affects another exactly when every message is tolerated.** -/
theorem undisturbed_iff (loads : String → Except PyExc PyVal) (tagsFilter messages : List String) :
    Undisturbed loads tagsFilter messages ↔
      ∀ message ∈ messages, Tolerated loads tagsFilter message := by
  constructor
  · intro hundisturbed
    rcases none_or_first (fun message => ¬ Tolerated loads tagsFilter message) messages with
      hnone | ⟨before, bad, after, rfl, hbefore, hbad⟩
    · exact fun message hmessage => not_not.mp (hnone message hmessage)
    · obtain ⟨s, hs, hsubscribed, hpending⟩ :=
        @reach_behind loads tagsFilter _ before (bad :: after)
          (fun message hmessage => not_not.mp (hbefore message hmessage)) _ .start rfl rfl
      -- the subscription is closed on the bad message
      obtain ⟨e, he⟩ := handle_of_not_tolerated hbad 0
      have hstep : step loads tagsFilter s (.receive 0) = some { s with
          pending := after, subscribed := false, closes := s.closes + 1 } := by
        simp [step, hsubscribed, hpending, he]
      have hcloses := (hundisturbed _ (hs.next trivial hstep)).1
      simp at hcloses
  · intro htolerated s hs
    have hclean : Clean loads tagsFilter messages s :=
      Reach.invariant hs ⟨rfl, rfl, [], rfl, .nil⟩ fun hs _ hstep => hs.step htolerated hstep
    exact ⟨hclean.closes, hclean.queue⟩

end Listener

namespace Sample

def nullTags : String := "misp_json \x7b\"Event\": \x7b\"Tag\": null\x7d\x7d"

def amber : String :=
  "misp_json \x7b\"Event\": \x7b\"Tag\": [\x7b\"name\": \"tlp:amber\"\x7d]\x7d\x7d"

/-- What `json.loads` makes of the two payloads. -/
def loads (payload : String) : Except PyExc PyVal :=
  if payload = (partition nullTags).2 then
    .ok (.dict [(.str "Event", .dict [(.str "Tag", .none)])])
  else if payload = (partition amber).2 then
    .ok (.dict [(.str "Event",
      .dict [(.str "Tag", .list [.dict [(.str "name", .str "tlp:amber")]])])])
  else .error ⟨.other "JSONDecodeError", "Expecting value: line 1 column 1 (char 0)"⟩

end Sample

/-- An event with `"Tag": null` closes the subscription, and the relevant event behind it goes
    by before the socket is open again: every message is over and the queue is empty. -/
theorem nullTags_disturbs :
    ¬ Undisturbed Sample.loads ["tlp:amber"] [Sample.nullTags, Sample.amber] ∧
    (Sample.nullTags :: [Sample.amber]).filterMap (accepted Sample.loads ["tlp:amber"]) ≠ [] ∧
    ∃ s, Reach (step Sample.loads ["tlp:amber"]) anyStep (start [Sample.nullTags, Sample.amber]) s ∧
      s.pending = [] ∧ s.queue.length = 0 ∧ s.closes = 1 := by
  have hrun : (runLabels (step Sample.loads ["tlp:amber"])
      (start [Sample.nullTags, Sample.amber]) [.receive 1, .reconnect 1]).map
        (fun s => s.pending.isEmpty && s.queue.isEmpty && s.closes == 1) = some true := by
    decide +kernel
  obtain ⟨s, hs, hend⟩ := Reach.exists_of_run (fun _ _ _ => trivial) hrun
  simp only [Bool.and_eq_true, List.isEmpty_iff, beq_iff_eq] at hend
  obtain ⟨⟨hpending, hqueue⟩, hcloses⟩ := hend
  refine ⟨?_, ?_, s, hs, hpending, by rw [hqueue]; rfl, hcloses⟩
  · intro hundisturbed
    have hzero := (hundisturbed s hs).1
    omega
  · have hone : ((Sample.nullTags :: [Sample.amber]).filterMap
        (accepted Sample.loads ["tlp:amber"])).length = 1 := by
      decide +kernel
    intro hnil
    rw [hnil] at hone
    simp at hone

end QsTie.GatewayA.MispListener
