import RiskPulse.Library.JsonLines
import RiskPulse.Library.OrderedDict
import RiskPulse.Library.Runs

namespace RiskPulse

-- What a payload can hold; json.dumps hands the five kinds it does not know to its default.
inductive Payload where
  | null
  | bool (value : Bool)
  | int (value : Int)
  | float (text : String)
  | str (text : String)
  | moment (isoformat : String)
  | decimal (number : String)
  | uuid (text : String)
  | enum (value : String)
  | other (text : String)
  | list (items : List Payload)
  | dict (members : List (String × Payload))

namespace Payload

def jsonDefault : Payload → Option Json
  | .moment isoformat => some (.str isoformat)
  | .decimal number => some (.float number)
  | .uuid text => some (.str text)
  | .enum value => some (.str value)
  | .other text => some (.str text)
  | _ => none

def byKey (first second : String × Json) : Bool := decide (first.1 ≤ second.1)

-- What json.dumps writes, the keys of each dictionary sorted.
mutual
def dumped : Payload → Json
  | .null => .null
  | .bool value => .bool value
  | .int value => .int value
  | .float text => .float text
  | .str text => .str text
  | .list items => .array (dumpedItems items)
  | .dict members => .object ((dumpedMembers members).mergeSort byKey)
  | value => (jsonDefault value).getD .null
def dumpedItems : List Payload → List Json
  | [] => []
  | item :: rest => item.dumped :: dumpedItems rest
def dumpedMembers : List (String × Payload) → List (String × Json)
  | [] => []
  | (key,member) :: rest => (key,member.dumped) :: dumpedMembers rest
end

-- bool()
def truth : Payload → Bool
  | .null => false
  | .bool value => value
  | .int value => decide (value ≠ 0)
  | .float text | .decimal text => decide (text ∉ ["0.0","-0.0"])
  | .str text => decide (text ≠ "")
  | .list items => !items.isEmpty
  | .dict members => !members.isEmpty
  | _ => true

end Payload

-- The variable of the environment, and float() and str() of a value; the text of a float is
-- the one that json.dumps writes.
structure DashboardHost where
  storageBackend : Option String
  float : Payload → Except String String
  str : Payload → String

-- A recording, with the time it is made at and, for a score, its new identifier.
inductive Recording where
  | record (name : String) (payload : OrderedDict String Payload)
  | transaction (transactionId : String) (transaction : OrderedDict String Payload) (status now : String)
  | score (transaction score : OrderedDict String Payload) (scoreId now later : String)

namespace LocalDashboardStore
variable (h : DashboardHost)

abbrev Files := OrderedDict String (List Char)

def localDashboardEnabled : Bool :=
  decide ((Text.strip Text.isSpace (h.storageBackend.getD "").toList).map Char.toLower = "local".toList)

-- The file of a name under the root.
def pathOf (name : String) : String := name ++ ".jsonl"

def members (payload : OrderedDict String Payload) : List (String × Json) := (Payload.dumpedMembers payload.entries).mergeSort Payload.byKey

def appendLocalRecord (name : String) (payload : OrderedDict String Payload) (files : Files) : Files :=
  if localDashboardEnabled h = true then files.set (pathOf name) (JsonLines.append (files.getD (pathOf name) []) (members payload)) else files

def readLocalRecords (limit : Nat) (files : Files) (name : String) : Except Json.Error (List Json) :=
  match files.get? (pathOf name) with
  | none => .ok []
  | some text => JsonLines.load limit id text

def transactionRecord (transactionId : String) (transaction : OrderedDict String Payload) (status now : String) : OrderedDict String Payload :=
  transaction.update (.ofList [("transaction_id",.str transactionId),("status",.str status),("created_at",transaction.getD "created_at" (.str now)),
    ("updated_at",.str now)])

def recordLocalTransaction (transactionId : String) (transaction : OrderedDict String Payload) (status now : String) (files : Files) : Files :=
  appendLocalRecord h "transactions" (transactionRecord transactionId transaction status now) files

-- The record of a score, and the identifier and the status of its transaction.
def scoreRecord (score : OrderedDict String Payload) (scoreId now : String) : Except String (OrderedDict String Payload × String × String) := do
  let finalScore ← h.float (score.getD "final_score" (.float "0.0"))
  match score.get? "transaction_id" with
  | none => throw "KeyError: 'transaction_id'"
  | some transactionId => do
    let latency ← h.float (score.getD "total_latency_ms" (.float "0.0"))
    let recommended := (score.getD "alert_recommended" (.bool false)).truth
    pure (.ofList [("score_id",.str scoreId),("transaction_id",.str (h.str transactionId)),("overall_score",.float finalScore),
        ("risk_score",.float finalScore),("model_version",score.getD "scoring_version" (.str "local-rules")),
        ("risk_classification",score.getD "risk_classification" (.str "low")),("alert_recommended",.bool recommended),
        ("latency_ms",.float latency),("scoring_timestamp",.str now)],
      h.str transactionId,if recommended = true then "flagged" else "approved")

def recordLocalScore (transaction score : OrderedDict String Payload) (scoreId now later : String) (files : Files) : Except String Unit × Files :=
  match scoreRecord h score scoreId now with
  | .error e => (.error e,files)
  | .ok (data,transactionId,status) =>
    (.ok (),recordLocalTransaction h transactionId transaction status later (appendLocalRecord h "risk_scores" data files))

def perform (files : Files) : Recording → Files
  | .record name payload => appendLocalRecord h name payload files
  | .transaction transactionId transaction status now => recordLocalTransaction h transactionId transaction status now files
  | .score transaction score scoreId now later => (recordLocalScore h transaction score scoreId now later files).2

-- What a recording adds: records, each under a name.
def added : Recording → List (String × OrderedDict String Payload)
  | .record name payload => [(name,payload)]
  | .transaction transactionId transaction status now => [("transactions",transactionRecord transactionId transaction status now)]
  | .score transaction score scoreId now later =>
    match scoreRecord h score scoreId now with
    | .error _ => []
    | .ok (data,transactionId,status) => [("risk_scores",data),("transactions",transactionRecord transactionId transaction status later)]

-- src/ingestion/api_ingestion.py: the lines of a JSONL file, stripped.
def parseJsonl (limit : Nat) (text : List Char) : Except String (List Json) :=
  match JsonLines.load limit (Text.strip Text.isSpace) text with
  | .error _ => .error "JSONDecodeError"
  | .ok [] => .error "JSONL file is empty"
  | .ok records => .ok records

-- The rows that records leave under a name.
def listed (records : List (String × OrderedDict String Payload)) (name : String) : List Json :=
  if localDashboardEnabled h = true then (records.filter fun record => decide (record.1 = name)).map fun record => .object (members record.2) else []

def Shows (limit : Nat) (line : List Char → List Char) (files : Files) (rows : String → List Json) : Prop :=
  ∀ name, JsonLines.Denotes limit line (files.getD (pathOf name) []) (rows name)

theorem perform_added (files : Files) (recording : Recording) :
    perform h files recording = (added h recording).foldl (fun files record => appendLocalRecord h record.1 record.2 files) files := by
  cases recording with
  | record name payload => rfl
  | transaction transactionId transaction status now => rfl
  | score transaction score scoreId now later =>
    rw [perform,recordLocalScore,added]
    cases scoreRecord h score scoreId now with
    | error e => rfl
    | ok found => rfl

theorem run_added (recordings : List Recording) (files : Files) : Runs.run (perform h) files recordings =
    (recordings.flatMap (added h)).foldl (fun files record => appendLocalRecord h record.1 record.2 files) files := by
  induction recordings generalizing files with
  | nil => rfl
  | cons recording rest ih =>
    rw [List.flatMap_cons,List.foldl_append,← perform_added]
    exact ih (perform h files recording)

theorem pathOf_injective : Function.Injective pathOf := by
  intro first second same
  have chars := congrArg String.toList same
  rw [pathOf,pathOf,String.toList_append,String.toList_append] at chars
  exact String.toList_inj.mp (List.append_cancel_right chars)

variable {limit : Nat} {line : List Char → List Char}

theorem append_shows (kept : ∀ inner, line ('\x7b' :: (inner ++ ['\x7d'])) = '\x7b' :: (inner ++ ['\x7d'])) (shows_ : Shows limit line files rows)
    (name : String) (payload : OrderedDict String Payload) (legible : JsonLines.Legible limit (members payload)) :
    Shows limit line (appendLocalRecord h name payload files) fun other => rows other ++ listed h [(name,payload)] other := by
  intro other
  change JsonLines.Denotes limit line _ (rows other ++ listed h [(name,payload)] other)
  rw [appendLocalRecord,listed]
  by_cases enabled : localDashboardEnabled h = true
  · rw [if_pos enabled,if_pos enabled,OrderedDict.getD_set]
    by_cases same : other = name
    · subst same
      rw [if_pos rfl,List.filter_cons_of_pos (by simp)]
      exact JsonLines.append_denotes kept (shows_ other) legible
    · rw [if_neg fun path => same (pathOf_injective path),List.filter_cons_of_neg (by simpa using Ne.symm same),List.filter_nil,List.map_nil,List.append_nil]
      exact shows_ other
  · rw [if_neg enabled,if_neg enabled,List.append_nil]
    exact shows_ other

theorem listed_cons (record : String × OrderedDict String Payload) (rest : List (String × OrderedDict String Payload)) (name : String) :
    listed h (record :: rest) name = listed h [record] name ++ listed h rest name := by
  unfold listed
  split
  · rw [← List.map_append,← List.filter_append,List.singleton_append]
  · rfl

theorem records_shown (kept : ∀ inner, line ('\x7b' :: (inner ++ ['\x7d'])) = '\x7b' :: (inner ++ ['\x7d']))
    (records : List (String × OrderedDict String Payload)) (legible : ∀ record ∈ records, JsonLines.Legible limit (members record.2))
    (shows_ : Shows limit line files rows) :
    Shows limit line (records.foldl (fun files record => appendLocalRecord h record.1 record.2 files) files) fun name => rows name ++ listed h records name := by
  induction records generalizing files rows with
  | nil =>
    intro name
    have none : listed h [] name = [] := by simp [listed]
    change JsonLines.Denotes limit line _ (rows name ++ listed h [] name)
    rw [none,List.append_nil]
    exact shows_ name
  | cons record rest ih =>
    obtain ⟨here,later⟩ := List.forall_mem_cons.mp legible
    have next := ih later (append_shows h kept shows_ record.1 record.2 here)
    intro name
    change JsonLines.Denotes limit line _ (rows name ++ listed h (record :: rest) name)
    rw [listed_cons,← List.append_assoc]
    exact next name

theorem strip_braces (inner : List Char) : Text.strip Text.isSpace ('\x7b' :: (inner ++ ['\x7d'])) = '\x7b' :: (inner ++ ['\x7d']) := by
  have front : Text.isSpace '\x7b' = false := by decide
  have back : Text.isSpace '\x7d' = false := by decide
  simp [Text.strip,front,back]

def localHost : DashboardHost := ⟨some " Local",fun _ => .ok "0.0",fun _ => ""⟩

def note : OrderedDict String Payload := .ofList [("text",.str "first\nsecond")]

theorem note_members : members note = [("text",.str "first\nsecond")] := by
  have entries : note.entries = [("text",.str "first\nsecond")] := rfl
  rw [members,entries]
  simp [Payload.dumpedMembers,Payload.dumped]

end LocalDashboardStore

end RiskPulse
