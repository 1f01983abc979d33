/-
Module: WorkflowEngine.Proofs.WebhookCalls
Layer: Proofs
Purpose: What a webhook sends.  Settings that are refused send nothing and take no time; all others send one request,
  to the address that was screened, and are waited for no longer than the limit (`Handler.run_webhook`).
Imports: WorkflowEngine.Action.Handler, WorkflowEngine.Proofs.KeyOrder, WorkflowEngine.Store.Memory,
  WorkflowEngine.World
Trusted boundary: none
Main exports: RefusedWebhook, WebhookRequest.Follows, webhookRequest_ok, webhookRequest_error, Exchange.InTime,
  Handler.run_webhook
-/
import WorkflowEngine.Action.Handler
import WorkflowEngine.Proofs.KeyOrder
import WorkflowEngine.Store.Memory
import WorkflowEngine.World

namespace WorkflowEngine

/-! ## What settings say -/

/-- The settings of a webhook that are refused. -/
inductive RefusedWebhook (config : Config) : Prop where
  | noAddress (missing : Json.Object.find? config "url" = none)
  | addressNoText {value : Json} (found : Json.Object.find? config "url" = some value) (other : value.text? = none)
  | addressBlank {raw : String} (found : Json.Object.find? config "url" = some (.text raw))
      (blank : ∀ c ∈ raw.toList, isBlank c = true)
  | addressBlocked {raw : String} {rejection : Rejection} (found : Json.Object.find? config "url" = some (.text raw))
      (blocked : checkUrl raw = .error rejection)
  | methodNoText {value : Json} (found : Json.Object.find? config "method" = some value) (notNull : value ≠ .null)
      (other : value.text? = none)
  | methodUnknown {s : String} (found : Json.Object.find? config "method" = some (.text s))
      (unknown : Method.read? s = none)

/-- The settings name a method, or name none, which means `POST`. -/
inductive NamedMethod (config : Config) : Method → Prop where
  | absent (missing : Json.Object.find? config "method" = none) : NamedMethod config .post
  | null (found : Json.Object.find? config "method" = some .null) : NamedMethod config .post
  | named {s : String} {m : Method} (found : Json.Object.find? config "method" = some (.text s))
      (known : Method.read? s = some m) : NamedMethod config m

/-- A value that can be sent in a header, and its text there. -/
inductive HeaderText : Json → String → Prop where
  | text (s : String) : HeaderText (.text s) s
  | number (n : Json.Number) : HeaderText (.number n) n.render
  | bool (b : Bool) : HeaderText (.bool b) (if b then "true" else "false")

/-- What the settings hold as headers, if it is an object. -/
def Config.headers? (config : Config) : Option Json.Object :=
  (Json.Object.find? config "headers").bind Json.members?

/-- What the body of a webhook holds under a key. -/
def ActionContext.told? (context : ActionContext) (key : String) : Option Json :=
  if key = "workflow_id" then some (.text context.workflowId.render)
  else if key = "execution_id" then some (.text context.executionId.render)
  else if key = "trigger_data" then some context.payload
  else none

/-- A request is the one that the settings describe. -/
structure WebhookRequest.Follows (request : WebhookRequest) (config : Config) (context : ActionContext) : Prop where
  address : ∃ raw, Json.Object.find? config "url" = some (.text raw) ∧ checkUrl raw = .ok request.url
  method : NamedMethod config request.method
  headers : ∀ name text, (name, text) ∈ request.headers ↔
    ∃ members value, config.headers? = some members ∧ members.find? name = some value ∧ HeaderText value text
  headers_ordered : request.headers.Pairwise fun a b => a.1 < b.1
  body : ∃ members : Json.Object, request.body = .object members ∧ ∀ key, members.find? key = context.told? key

/-! ## The request -/

section Request

variable {config : Config} {context : ActionContext}

theorem trim_eq_nil {cs : List Char} : trim cs = [] ↔ ∀ c ∈ cs, isBlank c = true := by
  constructor
  · intro empty c member
    cases blank : isBlank c with
    | true => rfl
    | false =>
        have inside := mem_trim member blank
        rw [empty] at inside
        cases inside
  · intro blank
    have dropped : (cs ++ []).dropWhile isBlank = [] := List.dropWhile_append_of_pos blank
    rw [List.append_nil] at dropped
    rw [trim, dropped]
    rfl

theorem webhookMethod_ok {m : Method} (named : webhookMethod config = .ok m) : NamedMethod config m := by
  unfold webhookMethod at named
  split at named
  · rename_i missing
    cases named
    exact .absent missing
  · rename_i null
    cases named
    exact .null null
  · rename_i s text
    cases known : Method.read? s with
    | none => simp [known] at named
    | some found =>
        simp only [known, Except.ok.injEq] at named
        exact .named text (named ▸ known)
  · cases named

theorem webhookMethod_error {message : String} (refused : webhookMethod config = .error message) :
    RefusedWebhook config := by
  unfold webhookMethod at refused
  split at refused
  · cases refused
  · cases refused
  · rename_i s text
    cases unknown : Method.read? s with
    | none => exact .methodUnknown text unknown
    | some m => simp [unknown] at refused
  · rename_i value notNull notText found
    apply RefusedWebhook.methodNoText found
    · rintro rfl
      exact notNull rfl
    · cases value with
      | text s => exact absurd rfl (notText s)
      | _ => rfl

/-- A header is sent for each text, number and boolean under its name. -/
theorem mem_webhookHeaders {name text : String}
    (ordered : ∀ members, config.headers? = some members → members.Ordered) :
    (name, text) ∈ webhookHeaders config ↔
      ∃ members value, config.headers? = some members ∧ members.find? name = some value ∧ HeaderText value text := by
  have stored : webhookHeaders config = (config.headers?.getD []).filterMap _ := rfl
  rw [stored, List.mem_filterMap]
  cases found : config.headers? with
  | none => simp
  | some members =>
      constructor
      · rintro ⟨⟨n, value⟩, member, made⟩
        have sent : n = name ∧ HeaderText value text := by
          cases value <;> cases made <;> exact ⟨rfl, by constructor⟩
        obtain ⟨rfl, header⟩ := sent
        exact ⟨members, value, rfl, (ordered members found).mem_iff_find?.mp member, header⟩
      · rintro ⟨_, value, same, held, header⟩
        cases same
        refine ⟨(name, value), (ordered members found).mem_iff_find?.mpr held, ?_⟩
        cases header <;> rfl

theorem webhookHeaders_ordered (ordered : ∀ members, config.headers? = some members → members.Ordered) :
    (webhookHeaders config).Pairwise fun a b => a.1 < b.1 := by
  have keeps (all : Json.Object.Ordered (config.headers?.getD [])) :
      (webhookHeaders config).Pairwise fun a b => a.1 < b.1 := by
    apply List.Pairwise.filterMap _ _ all
    rintro ⟨n, v⟩ ⟨n', v'⟩ before b made b' made'
    cases v <;> cases made <;> cases v' <;> cases made' <;> exact before
  apply keeps
  cases found : config.headers? with
  | none => exact List.Pairwise.nil
  | some members => exact ordered members found

theorem webhookBody_find? (context : ActionContext) : ∃ members : Json.Object,
    webhookBody context = .object members ∧ ∀ key, members.find? key = context.told? key := by
  refine ⟨_, rfl, ?_⟩
  intro key
  simp only [ActionContext.told?, Json.Object.ofList, List.foldl, Json.Object.find?_insert, Json.Object.find?_nil]
  by_cases workflow : key = "workflow_id"
  · simp [workflow]
  · by_cases execution : key = "execution_id"
    · simp [execution]
    · simp [workflow, execution]

/-- What a request is made from. -/
structure MadeFrom (config : Config) (context : ActionContext) (raw : String) (request : WebhookRequest) : Prop where
  found : Json.Object.find? config "url" = some (.text raw)
  full : ¬ ∀ c ∈ raw.toList, isBlank c = true
  screened : checkUrl raw = .ok request.url
  named : NamedMethod config request.method
  headers : request.headers = webhookHeaders config
  body : request.body = webhookBody context

theorem webhookRequest_ok {request : WebhookRequest} (made : webhookRequest config context = .ok request) :
    ∃ raw, MadeFrom config context raw request := by
  unfold webhookRequest at made
  split at made
  · cases made
  · rename_i raw held
    obtain ⟨text, full⟩ := Option.filter_eq_some_iff.mp held
    obtain ⟨value, found, text⟩ := Option.bind_eq_some_iff.mp text
    cases value <;> cases text
    split at made
    · cases made
    · rename_i url screened
      cases named : webhookMethod config with
      | error message => simp [named, Except.map] at made
      | ok m =>
          simp only [named, Except.map, Except.ok.injEq] at made
          subst made
          refine ⟨raw, found, ?_, screened, webhookMethod_ok named, rfl, rfl⟩
          intro blank
          rw [trim_eq_nil.mpr blank] at full
          cases full

/-- A request that is made is the one that the settings describe. -/
theorem MadeFrom.follows {raw : String} {request : WebhookRequest} (made : MadeFrom config context raw request)
    (ordered : ∀ members, config.headers? = some members → members.Ordered) : request.Follows config context where
  address := ⟨raw, made.found, made.screened⟩
  method := made.named
  headers := by
    intro name text
    rw [made.headers]
    exact mem_webhookHeaders ordered
  headers_ordered := by
    rw [made.headers]
    exact webhookHeaders_ordered ordered
  body := by
    rw [made.body]
    exact webhookBody_find? context

theorem MadeFrom.not_refused {raw : String} {request : WebhookRequest} (made : MadeFrom config context raw request) :
    ¬ RefusedWebhook config := by
  intro refused
  have found := made.found
  obtain ⟨m, named⟩ : ∃ m, NamedMethod config m := ⟨_, made.named⟩
  cases refused with
  | noAddress missing => cases missing.symm.trans found
  | addressNoText held other =>
      cases held.symm.trans found
      cases other
  | addressBlank held blank =>
      cases held.symm.trans found
      exact made.full blank
  | addressBlocked held blocked =>
      cases held.symm.trans found
      cases blocked.symm.trans made.screened
  | methodNoText held notNull other =>
      cases named with
      | absent missing => cases held.symm.trans missing
      | null null =>
          cases held.symm.trans null
          exact notNull rfl
      | named text known =>
          cases held.symm.trans text
          cases other
  | methodUnknown held unknown =>
      cases named with
      | absent missing => cases held.symm.trans missing
      | null null => cases held.symm.trans null
      | named text known =>
          cases held.symm.trans text
          cases unknown.symm.trans known

/-- Settings that no request is made from are refused. -/
theorem webhookRequest_error {message : String} (refused : webhookRequest config context = .error message) :
    RefusedWebhook config := by
  unfold webhookRequest at refused
  split at refused
  · rename_i held
    cases found : Json.Object.find? config "url" with
    | none => exact .noAddress found
    | some value =>
        cases value with
        | text raw =>
            apply RefusedWebhook.addressBlank found
            apply trim_eq_nil.mp
            simpa [Config.text?, found, Json.text?] using held
        | _ => exact .addressNoText found rfl
  · rename_i raw held
    obtain ⟨text, -⟩ := Option.filter_eq_some_iff.mp held
    obtain ⟨value, found, text⟩ := Option.bind_eq_some_iff.mp text
    cases value <;> cases text
    split at refused
    · rename_i rejection blocked
      exact .addressBlocked found blocked
    · cases named : webhookMethod config with
      | error message => exact webhookMethod_error named
      | ok m => simp [named, Except.map] at refused

end Request

/-! ## The call -/

/-- The transport answers with a status within the limit. -/
def Exchange.InTime (x : Exchange) (timeoutMs status : Nat) : Prop :=
  ∃ ms ≤ timeoutMs, x = .answered ms (.ok status)

/-- What is seen of an exchange: its status if that comes in time, and no status otherwise. -/
theorem waitFor_cases (x : Exchange) (timeoutMs : Nat) :
    (∃ status, x.InTime timeoutMs status ∧ (World.waitFor timeoutMs x).1 = some (.ok status)) ∨
      (∀ status, ¬ x.InTime timeoutMs status) ∧ ∀ status, (World.waitFor timeoutMs x).1 ≠ some (.ok status) := by
  cases x with
  | silent => simp [World.waitFor, Exchange.InTime]
  | answered ms result =>
      by_cases early : ms ≤ timeoutMs
      · cases result <;> simp [World.waitFor, Exchange.InTime, early]
      · have late : ∀ t ≤ timeoutMs, ms ≠ t := by
          rintro t known rfl
          exact early known
        simp only [World.waitFor, early, if_false, Exchange.InTime, Exchange.answered.injEq]
        right
        constructor
        · rintro status ⟨t, known, same, -⟩
          exact late t known same
        · simp

theorem waitFor_le (x : Exchange) (timeoutMs : Nat) : (World.waitFor timeoutMs x).2 ≤ timeoutMs := by
  cases x with
  | silent => exact Nat.le_refl _
  | answered ms result =>
      by_cases early : ms ≤ timeoutMs <;> simp [World.waitFor, early]

section Run

variable {σ : Type} [Store σ] (env : Environment) (w : World σ) {config : Config} {context : ActionContext}
  (timeoutMs : Nat)

theorem Handler.run_webhook_refused {message : String} (refused : webhookRequest config context = .error message) :
    ((Handler.webhook timeoutMs).run config context).run env w = (some (.rejected message), w) := by
  simp [Handler.run, refused, Process.run]

/-- A request that is made is sent, once, and what is seen of the exchange is reported. -/
theorem Handler.run_webhook_sent {request : WebhookRequest} (made : webhookRequest config context = .ok request) :
    let seen := World.waitFor timeoutMs (env.transport w.requests request)
    ((Handler.webhook timeoutMs).run config context).run env w =
      (some (match seen.1 with
        | some (.ok status) => .ok (.webhookCalled status)
        | _ => .failed "Webhook request failed"),
      { w with requests := w.requests ++ [request], now := w.now + seen.2 }) := by
  have asked : World.answer env (.exchange request timeoutMs) w =
      (some (World.waitFor timeoutMs (env.transport w.requests request)),
        { w with requests := w.requests ++ [request] }) := rfl
  generalize World.waitFor timeoutMs (env.transport w.requests request) = seen at asked
  obtain ⟨answer, ms⟩ := seen
  simp only [Handler.run, made, Process.request, Process.ask_bind, Process.done_bind, Process.run, asked]
  rcases answer with _ | _ | status <;> rfl

/-- A webhook is rejected just where its settings are refused, and then nothing is sent and no time passes.
Otherwise it sends the one request that the settings describe, waits for at most the limit, and reports the status
if the transport answers with one in that time; all else is one and the same failure. -/
theorem Handler.run_webhook (config : Config) (context : ActionContext)
    (ordered : ∀ members, config.headers? = some members → members.Ordered) :
    let run := ((Handler.webhook timeoutMs).run config context).run env w
    ((∃ message, run.1 = some (.rejected message)) ↔ RefusedWebhook config) ∧
      (RefusedWebhook config → run.2 = w) ∧
      (¬ RefusedWebhook config → ∃ request elapsed, request.Follows config context ∧ elapsed ≤ timeoutMs ∧
        run.2 = { w with requests := w.requests ++ [request], now := w.now + elapsed } ∧
        ((∃ status, (env.transport w.requests request).InTime timeoutMs status ∧
            run.1 = some (.ok (.webhookCalled status))) ∨
          (∀ status, ¬ (env.transport w.requests request).InTime timeoutMs status) ∧
            run.1 = some (.failed "Webhook request failed"))) := by
  intro run
  cases made : webhookRequest config context with
  | error message =>
      have refused := webhookRequest_error made
      have ended : run = (some (.rejected message), w) := Handler.run_webhook_refused env w timeoutMs made
      rw [ended]
      refine ⟨?_, fun _ => rfl, fun allowed => absurd refused allowed⟩
      exact iff_of_true ⟨message, rfl⟩ refused
  | ok request =>
      obtain ⟨raw, origin⟩ := webhookRequest_ok made
      have allowed := origin.not_refused
      have ended := Handler.run_webhook_sent env w timeoutMs made
      have inTime := waitFor_le (env.transport w.requests request) timeoutMs
      change run = _ at ended
      refine ⟨?_, fun refused => absurd refused allowed, fun _ => ?_⟩
      · apply iff_of_false _ allowed
        rintro ⟨message, rejected⟩
        rw [ended] at rejected
        revert rejected
        dsimp only
        split <;> intro rejected <;> cases rejected
      · refine ⟨request, _, origin.follows ordered, inTime, by rw [ended], ?_⟩
        rw [ended]
        rcases waitFor_cases (env.transport w.requests request) timeoutMs with ⟨status, answered, seen⟩ | ⟨late, other⟩
        · left
          refine ⟨status, answered, ?_⟩
          simp only [seen]
        · right
          refine ⟨late, ?_⟩
          dsimp only
          split
          · rename_i status seen
            exact absurd seen (other status)
          · rfl

end Run

/-- Settings with an address, a method and headers. -/
def hookConfig : Config :=
  .ofList [("url", .text "https://api.example.com/hook"), ("method", .text "put"),
    ("headers", .ofMembers [("X-Token", .text "abc"), ("X-Retry", .ofNat 3), ("X-Nested", .object [])])]

/-- Surroundings in which every request is answered after five milliseconds. -/
def answering : Environment :=
  ⟨fun _ _ => .answered 5 (.ok 204), fun _ _ => .ok (), fun _ _ => none, Uuid.ofNat, "the task panicked"⟩

theorem Handler.run_webhook_answered :
    let run := ((Handler.webhook 30000).run hookConfig ⟨.nil, .nil, "hook", .null⟩).run answering
      (.start MemoryStore.empty)
    ∃ request : WebhookRequest, request.Follows hookConfig ⟨.nil, .nil, "hook", .null⟩ ∧
      run.2.requests = [request] ∧ run.1 = some (.ok (.webhookCalled 204)) := by
  intro run
  have ordered : ∀ members, Config.headers? hookConfig = some members → members.Ordered := by
    intro members found
    cases found
    exact Json.Object.ofList_ordered _
  have allowed : ¬ RefusedWebhook hookConfig := by
    have made : (webhookRequest hookConfig ⟨.nil, .nil, "hook", .null⟩).toOption.isSome = true := by decide +kernel
    cases result : webhookRequest hookConfig ⟨.nil, .nil, "hook", .null⟩ with
    | error message =>
        rw [result] at made
        cases made
    | ok request =>
        obtain ⟨raw, origin⟩ := webhookRequest_ok result
        exact origin.not_refused
  obtain ⟨-, -, sends⟩ := Handler.run_webhook answering (.start MemoryStore.empty) 30000 hookConfig
    ⟨.nil, .nil, "hook", .null⟩ ordered
  obtain ⟨request, elapsed, follows, -, after, reported⟩ := sends allowed
  refine ⟨request, follows, by rw [after]; rfl, ?_⟩
  rcases reported with ⟨status, ⟨ms, -, answer⟩, reported⟩ | ⟨never, -⟩
  · cases answer
    exact reported
  · exact absurd ⟨5, by decide, rfl⟩ (never 204)

end WorkflowEngine
