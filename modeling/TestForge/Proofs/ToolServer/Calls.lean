import TestForge.ToolServer.Session
import TestForge.Proofs.Operation.Calls
import TestForge.Proofs.Operation.Requests

/-!
# Calls of tools are calls of operations

A tool decodes its arguments and hands on what it has written of them. Since a request survives
that, a tool answers what the operation answers, and leaves behind what the operation leaves behind.
So does a session, call by call.
-/

namespace TestForge

open Json

theorem Operation.ofName?_name (op : Operation) : Operation.ofName? op.name = some op := by
  cases op <;> rfl

/-- Every report says whether it is one of success. -/
theorem Report.get?_success (report : Report) :
    report.toJson.get? "success" = some (.bool report.success) := by
  cases report with
  | analysis r =>
      obtain ⟨result⟩ := r
      cases result with
      | ok model => rfl
      | error chain => rfl
  | generation r => rfl
  | batch r => rfl
  | validation r => rfl

namespace ToolServer

variable {σ : Type}

/-- The call was rejected, or its report is not one of success. -/
inductive Failed : Except Rejection Report → Prop
  | rejected (e : Rejection) : Failed (.error e)
  | reported {report : Report} (h : report.toJson.get? "success" = some (.bool false)) :
      Failed (.ok report)

theorem isFailure_iff (result : Except Rejection Report) :
    isFailure result = true ↔ Failed result := by
  cases result with
  | error e => exact iff_of_true rfl (.rejected e)
  | ok report =>
      have hs := report.get?_success
      cases hb : report.success with
      | false =>
          rw [hb] at hs
          exact iff_of_true (by simp [isFailure, hb]) (.reported hs)
      | true =>
          rw [hb] at hs
          refine iff_of_false (by simp [isFailure, hb]) ?_
          rintro ⟨⟩
          rename_i h
          rw [hs] at h
          cases h

/-- Arguments that decode are not null. -/
theorem argumentsOf_decoded {op : Operation} {params v : Json} {request : Dispatcher.Request}
    (h : Dispatcher.Request.decode op v = .ok request) (hp : params.get? "arguments" = some v) :
    argumentsOf params = v := by
  unfold argumentsOf
  rw [hp]
  cases v with
  | null => cases op <;> cases h
  | bool b => rfl
  | num n => rfl
  | str s => rfl
  | arr items => rfl
  | obj members => rfl

/-- The arguments that a tool hands on are decoded to the request that it has decoded itself. -/
theorem call_sorted (d : Dispatcher σ) {op : Operation} {v : Json} {request : Dispatcher.Request}
    (h : Dispatcher.Request.decode op v = .ok request) (hv : v.Ordered) (w : World σ) :
    d.call op.name request.toJson.sorted w = d.call op.name v w := by
  simp only [Dispatcher.call, op.ofName?_name, Dispatcher.Request.decode_sorted h hv, h]

theorem callTool_eq (d : Dispatcher σ) {op : Operation} {v : Json} {request : Dispatcher.Request}
    (h : Dispatcher.Request.decode op v = .ok request) (hv : v.Ordered) (w : World σ) :
    callTool d op.name v w = (.ok (.of (d.call op.name v w).1), (d.call op.name v w).2) := by
  simp only [callTool, op.ofName?_name, h, call_sorted d h hv]

theorem answer_call (d : Dispatcher σ) {op : Operation} {v params : Json}
    {request : Dispatcher.Request} (h : Dispatcher.Request.decode op v = .ok request)
    (hv : v.Ordered) (hn : params.get? "name" = some (.str op.name))
    (hp : params.get? "arguments" = some v) (w : World σ) :
    answer d "tools/call" params w =
      (.ok (ToolResult.of (d.call op.name v w).1).toJson, (d.call op.name v w).2) := by
  have hname : ((params.get? "name").bind str?).getD "" = op.name := by
    rw [hn]
    rfl
  unfold answer
  simp only [hname, argumentsOf_decoded h hp, callTool_eq d h hv]

/-! ## Sessions -/

/-- A call of a tool, with the number or name that its answer bears. -/
structure ToolCall where
  id : Json
  op : Operation
  arguments : Json

/-- The message calls the tool with arguments that it takes. -/
structure ToolCall.IsIn (c : ToolCall) (message : Json) : Prop where
  id : message.get? "id" = some c.id
  method : message.get? "method" = some (.str "tools/call")
  params : ∃ params, message.get? "params" = some params ∧
    params.get? "name" = some (.str c.op.name) ∧ params.get? "arguments" = some c.arguments
  decodes : ∃ request, Dispatcher.Request.decode c.op c.arguments = .ok request

/-- The operation that is called for, and the response with its outcome. -/
def ToolCall.perform (d : Dispatcher σ) (c : ToolCall) (w : World σ) : Json × World σ :=
  (response c.id (.ok (ToolResult.of (d.call c.op.name c.arguments w).1).toJson),
    (d.call c.op.name c.arguments w).2)

/-- A message that was read from text needs no sorting of its arguments. -/
theorem receive_call (d : Dispatcher σ) {text : String} {message : Json} {c : ToolCall}
    (hr : Json.read text = .ok message) (h : c.IsIn message) (w : World σ) :
    receive d message w = (some (c.perform d w).1, (c.perform d w).2) := by
  obtain ⟨params, hparams, hname, harguments⟩ := h.params
  obtain ⟨request, hrequest⟩ := h.decodes
  have hordered := ((ordered_read hr).get? hparams).get? harguments
  have hanswer := answer_call d hrequest hordered hname harguments w
  simp only [receive, h.id, h.method, hparams, Option.bind_some, str?_str, Option.getD_some,
    hanswer]
  rfl

theorem exists_read_of_mem_messagesOf {input : String} {message : Json}
    (h : message ∈ messagesOf input) : ∃ line, Json.read line = .ok message := by
  obtain ⟨line, -, hline⟩ := List.mem_filterMap.1 h
  refine ⟨line, ?_⟩
  cases hr : Json.read line with
  | error e =>
      rw [hr] at hline
      cases hline
  | ok j =>
      rw [hr] at hline
      cases hline
      rfl

/-- The operations that are called for, one after the other, and the lines that answer. -/
def ToolCall.performAll (d : Dispatcher σ) : List ToolCall → World σ → List String × World σ
  | [], w => ([], w)
  | c :: rest, w =>
    ((c.perform d w).1.compact :: (performAll d rest (c.perform d w).2).1,
      (performAll d rest (c.perform d w).2).2)

/-- A session of calls of tools is the operations that are called for, one after the other. -/
theorem receiveAll_calls (d : Dispatcher σ) {messages : List Json} {calls : List ToolCall}
    (hr : ∀ message ∈ messages, ∃ line, Json.read line = .ok message)
    (h : List.Forall₂ ToolCall.IsIn calls messages) (w : World σ) :
    receiveAll d messages w = ToolCall.performAll d calls w := by
  induction h generalizing w with
  | nil => rfl
  | @cons c message _ _ hc _ ih =>
      obtain ⟨line, hline⟩ := hr message List.mem_cons_self
      have hrest := ih fun other ho => hr other (List.mem_cons_of_mem message ho)
      simp only [receiveAll, receive_call d hline hc, hrest]
      rfl

/-- If each message of an input calls a tool, a session over it performs what is called for. -/
theorem receiveAll_messagesOf (d : Dispatcher σ) {input : String} {calls : List ToolCall}
    (h : List.Forall₂ ToolCall.IsIn calls (messagesOf input)) (w : World σ) :
    receiveAll d (messagesOf input) w = ToolCall.performAll d calls w :=
  receiveAll_calls d (fun _ hm => exists_read_of_mem_messagesOf hm) h w

/-! ## Tools and operations -/

/-- What a tool is called with is decoded twice to one request: its result is the outcome of the
operation on the same arguments, it leaves the same world behind, and it counts as an error if and
only if the operation has failed. -/
theorem tool_call_agrees (d : Dispatcher σ) {op : Operation} {v : Json}
    {request : Dispatcher.Request} (h : Dispatcher.Request.decode op v = .ok request)
    (hv : v.Ordered) (w : World σ) :
    Dispatcher.Request.decode op request.toJson.sorted = .ok request ∧
      callTool d op.name v w = (.ok (.of (d.call op.name v w).1), (d.call op.name v w).2) ∧
      (∀ params : Json, params.get? "name" = some (.str op.name) →
        params.get? "arguments" = some v →
        answer d "tools/call" params w =
          (.ok (ToolResult.of (d.call op.name v w).1).toJson, (d.call op.name v w).2)) ∧
      ((ToolResult.of (d.call op.name v w).1).isError = true ↔ Failed (d.call op.name v w).1) := by
  refine ⟨Dispatcher.Request.decode_sorted h hv, callTool_eq d h hv w, ?_, isFailure_iff _⟩
  intro params hn hp
  exact answer_call d h hv hn hp w

end ToolServer

/-! ## An overview with members of the wrong types -/

/-- The name is a number, one member has a list for its kind and no name, and one is no member. -/
def Json.oddArguments : Json :=
  .obj [("project_root", .str "/p"),
    ("serena_analysis", .obj [
      ("children", .arr [.nat 3, .obj [("detail", .null), ("kind", .arr [.bool true])]]),
      ("name", .nat 7)]),
    ("service_path", .str "Order.kt"), ("validate", .bool false)]

def GenerateRequest.odd : GenerateRequest :=
  { projectRoot := "/p"
    servicePath := "Order.kt"
    symbols := some ⟨none, [⟨some (.unrecognized (.arr [.bool true])), "", none⟩]⟩
    testPath := none
    validate := false
    maxRetries := 3 }

theorem GenerateRequest.decode_odd :
    Dispatcher.Request.decode .generateUnitTest .oddArguments =
      .ok (.generate .odd .unit) :=
  rfl

theorem Json.ordered_oddArguments : Ordered .oddArguments := by
  simp only [oddArguments, nat, ordered_obj, ordered_arr, ordered_str, ordered_num, ordered_bool,
    ordered_null, Ascending, List.pairwise_cons, List.Pairwise.nil, List.mem_cons,
    List.not_mem_nil, or_false, forall_eq_or_imp, forall_eq, String.reduceLT, and_self,
    IsEmpty.forall_iff, implies_true]

theorem ToolServer.tool_call_agrees_odd :
    Dispatcher.Request.decode .generateUnitTest
        (Dispatcher.Request.generate .odd .unit).toJson.sorted = .ok (.generate .odd .unit) ∧
      callTool .steady "generate_unit_test" .oddArguments .oneTest =
        (.ok (.of (Dispatcher.steady.call "generate_unit_test" .oddArguments .oneTest).1),
          (Dispatcher.steady.call "generate_unit_test" .oddArguments .oneTest).2) :=
  have h := tool_call_agrees .steady GenerateRequest.decode_odd ordered_oddArguments .oneTest
  ⟨h.1, h.2.1⟩

end TestForge
