import RiskPulse.Library.JsonText
import RiskPulse.Library.Runs
import RiskPulse.Library.Text
import RiskPulse.SnowflakeLoad

namespace RiskPulse

-- Records have values of any kind. json.dumps gives one line that is not blank, or raises;
-- str.isalnum is taken as it is on ASCII.
structure LocalWarehouseHandler (ν : Type) where
  isalnum : Char → Bool
  ascii : ∀ c, c.toNat < 128 → isalnum c = c.isAlphanum
  text : String → ν
  dumps : OrderedDict String ν → Except String String
  oneLine : ∀ payload line, dumps payload = .ok line → line ≠ "" ∧ '\n' ∉ line.toList

-- The files below the root, by directory and name.
abbrev WarehouseFiles := OrderedDict (String × String) (List Char)

inductive WarehouseCall (ν : Type) where
  | putAndCopy (data : List (OrderedDict String ν)) (targetTable schema : String) (batchId : Option String) (uuid4Hex : String)
    (loadTimestamp : Nat → String) (elapsedMs : Rat)
  | updateWatermark (tableName columnName value : String)
  | getWatermark (tableName columnName : String)

inductive WarehouseAnswer where
  | loaded (outcome : Except String LoadMetrics)
  | updated
  | watermark (value : Option String)

namespace LocalWarehouseHandler
variable {ν : Type} (c : LocalWarehouseHandler ν)

def safeName (value : String) : String :=
  let safe := String.ofList (value.toList.map fun char => if c.isalnum char || char = '_' || char = '-' then char else '_')
  if safe = "" then "unknown" else safe

def tablePath (schema tableName : String) : String × String := (c.safeName schema,c.safeName tableName ++ ".jsonl")

def watermarkPath (tableName columnName : String) : String × String :=
  ("_watermarks",c.safeName tableName ++ "." ++ c.safeName columnName)

def batchOf (batchId : Option String) (uuid4Hex : String) : String :=
  match batchId with
  | some text => if text = "" then String.ofList (uuid4Hex.toList.take 16) else text
  | none => String.ofList (uuid4Hex.toList.take 16)

def payload (batchId loadTimestamp : String) (record : OrderedDict String ν) : OrderedDict String ν :=
  (record.set "_batch_id" (c.text batchId)).set "_load_timestamp" (c.text loadTimestamp)

def payloads (batchId : String) (loadTimestamp : Nat → String) (data : List (OrderedDict String ν)) : List (OrderedDict String ν) :=
  data.zipIdx.map fun entry => c.payload batchId (loadTimestamp entry.2) entry.1

-- The lines that are written, and the exception that ends them.
def serialized : List (OrderedDict String ν) → List (List Char) × Option String
  | [] => ([],none)
  | payload :: rest =>
    match c.dumps payload with
    | .error e => ([],some e)
    | .ok line => (line.toList :: (serialized rest).1,(serialized rest).2)

def terminated (lines : List (List Char)) : List Char := lines.flatMap fun line => line ++ ['\n']

def appendLines (path : String × String) (lines : List (List Char)) (files : WarehouseFiles) : WarehouseFiles :=
  files.set path (files.getD path [] ++ terminated lines)

-- Reading a text file: each end of line becomes a newline.
def universalNewlines : List Char → List Char
  | '\r' :: '\n' :: rest => '\n' :: universalNewlines rest
  | '\r' :: rest => '\n' :: universalNewlines rest
  | char :: rest => char :: universalNewlines rest
  | [] => []

-- read_text().strip() or None
def readWatermark (content : List Char) : Option String :=
  let value := String.ofList (Text.strip Text.isSpace (universalNewlines content))
  if value = "" then none else some value

def exec (call : WarehouseCall ν) (files : WarehouseFiles) : WarehouseAnswer × WarehouseFiles :=
  match call with
  | .putAndCopy data targetTable schema batchId uuid4Hex loadTimestamp elapsedMs =>
    let id := batchOf batchId uuid4Hex
    let (lines,failed) := c.serialized (c.payloads id loadTimestamp data)
    let written := appendLines (c.tablePath schema targetTable) lines files
    match failed with
    | some e => (.loaded (.error e),written)
    | none => (.loaded (.ok ⟨id,"LOCAL",schema,targetTable,data.length,0,elapsedMs,.append⟩),written)
  | .updateWatermark tableName columnName value => (.updated,files.set (c.watermarkPath tableName columnName) value.toList)
  | .getWatermark tableName columnName =>
    (.watermark ((files.get? (c.watermarkPath tableName columnName)).bind readWatermark),files)

-- The rows that a table file holds.
def rowsOf (content : List Char) : List (List Char) := (content.splitOn '\n').filter fun line => line ≠ []

def dumped (payload : OrderedDict String ν) : Option (List Char) := (c.dumps payload).toOption.map String.toList

theorem rowsOf_terminated (lines : List (List Char)) (plain : ∀ line ∈ lines, line ≠ [] ∧ '\n' ∉ line) :
    rowsOf (terminated lines) = lines := by
  induction lines with
  | nil => rfl
  | cons line rest ih =>
    obtain ⟨filled,single⟩ := plain line List.mem_cons_self
    have others := ih fun other member => plain other (List.mem_cons_of_mem _ member)
    have split : terminated (line :: rest) = line ++ '\n' :: terminated rest := by
      simp [terminated]
    unfold rowsOf at others ⊢
    rw [split,List.splitOn_append_cons_self_of_not_mem single,List.filter_cons_of_pos (by simpa using filled),others]

theorem terminated_append (first later : List (List Char)) : terminated (first ++ later) = terminated first ++ terminated later :=
  List.flatMap_append

theorem dumped_plain {c : LocalWarehouseHandler ν} {row : OrderedDict String ν} (found : c.dumped row = some line) :
    line ≠ [] ∧ '\n' ∉ line := by
  unfold dumped at found
  cases result : c.dumps row with
  | error e => simp [result,Except.toOption] at found
  | ok text =>
    obtain ⟨filled,single⟩ := c.oneLine row text result
    have same : text.toList = line := by simpa [result,Except.toOption] using found
    subst line
    exact ⟨fun empty => filled (String.toList_inj.mp empty),single⟩

-- Where nothing raises, each record gave its line.
theorem serialized_complete {c : LocalWarehouseHandler ν} (payloads : List (OrderedDict String ν))
    (complete : (c.serialized payloads).2 = none) : (c.serialized payloads).1.map some = payloads.map c.dumped := by
  induction payloads with
  | nil => rfl
  | cons payload rest ih =>
    unfold serialized at complete ⊢
    cases result : c.dumps payload with
    | error e => simp [result] at complete
    | ok line =>
      rw [result] at complete
      have others := ih complete
      simp [dumped,result,Except.toOption,others]

theorem serialized_failed {c : LocalWarehouseHandler ν} {payloads : List (OrderedDict String ν)}
    (failed : (c.serialized payloads).2 = some e) : ∃ other ∈ payloads, c.dumped other = none := by
  induction payloads with
  | nil => cases failed
  | cons payload rest ih =>
    unfold serialized at failed
    cases result : c.dumps payload with
    | error e => exact ⟨payload,List.mem_cons_self,by simp [dumped,result,Except.toOption]⟩
    | ok line =>
      rw [result] at failed
      obtain ⟨other,member,fails⟩ := ih failed
      exact ⟨other,List.mem_cons_of_mem _ member,fails⟩

theorem serialized_first {c : LocalWarehouseHandler ν} {row : OrderedDict String ν} (rest : List (OrderedDict String ν))
    (fails : c.dumped row = none) : (c.serialized (row :: rest)).1 = [] := by
  unfold serialized
  cases result : c.dumps row with
  | error e => rfl
  | ok line => simp [dumped,result,Except.toOption] at fails

theorem universalNewlines_cons (rest : List Char) (other : char ≠ '\r') :
    universalNewlines (char :: rest) = char :: universalNewlines rest := by
  cases rest <;> simp [universalNewlines,other]

theorem universalNewlines_unchanged (text : List Char) (plain : '\r' ∉ text) : universalNewlines text = text := by
  induction text with
  | nil => rfl
  | cons char rest ih =>
    obtain ⟨other,others⟩ := not_or.mp (mt List.mem_cons.mpr plain)
    rw [universalNewlines_cons rest (Ne.symm other),ih others]

theorem universalNewlines_plain (text : List Char) : '\r' ∉ universalNewlines text := by
  induction text using universalNewlines.induct with
  | case1 rest ih => simpa [universalNewlines] using ih
  | case2 rest _ ih => simp_all [universalNewlines]
  | case3 char rest _ other ih =>
    rw [universalNewlines_cons rest other]
    exact List.not_mem_cons_of_ne_of_not_mem (Ne.symm other) ih
  | case4 => simp [universalNewlines]

-- A value that is read as it was set.
abbrev Plain (value : String) : Prop := value ≠ "" ∧ '\r' ∉ value.toList ∧ Text.strip Text.isSpace value.toList = value.toList

theorem readWatermark_plain (value : String) : readWatermark value.toList = some value ↔ Plain value := by
  unfold readWatermark
  constructor
  · intro read
    simp only at read
    split at read
    · cases read
    rename_i filled
    have same := Option.some.inj read
    have stripped := congrArg String.toList same
    rw [String.toList_ofList] at stripped
    have plain : '\r' ∉ value.toList := by
      rw [← stripped]
      exact fun member => universalNewlines_plain _ ((Text.strip_sublist _ _).mem member)
    rw [universalNewlines_unchanged _ plain] at stripped
    exact ⟨same ▸ filled,plain,stripped⟩
  · intro ⟨filled,plain,stripped⟩
    rw [universalNewlines_unchanged _ plain,stripped,String.ofList_toList]
    exact if_neg filled

-- The rows that loads gave a pair and the value last set for a column; a pair that a put has
-- named has an entry.
structure WarehouseRun (ν : Type) where
  files : WarehouseFiles
  loads : OrderedDict (String × String) (List (OrderedDict String ν))
  marks : OrderedDict (String × String) String

def start : WarehouseRun ν := ⟨.empty,.empty,.empty⟩

-- The payloads that a call adds where it is successful.
def loaded (call : WarehouseCall ν) : List (OrderedDict String ν) :=
  match call with
  | .putAndCopy data _ _ batchId uuid4Hex loadTimestamp _ => c.payloads (batchOf batchId uuid4Hex) loadTimestamp data
  | _ => []

def record (call : WarehouseCall ν) (answer : WarehouseAnswer) (s : WarehouseRun ν) : WarehouseRun ν :=
  match call with
  | .putAndCopy _ targetTable schema _ _ _ _ =>
    let earlier := s.loads.getD (schema,targetTable) []
    let rows := match answer with
      | .loaded (.ok _) => earlier ++ c.loaded call
      | _ => earlier
    {s with loads := s.loads.set (schema,targetTable) rows}
  | .updateWatermark tableName columnName value => {s with marks := s.marks.set (tableName,columnName) value}
  | .getWatermark _ _ => s

def step (s : WarehouseRun ν) (call : WarehouseCall ν) : WarehouseRun ν :=
  let (answer,files) := c.exec call s.files
  {c.record call answer s with files}

-- What the tables and watermarks of the files are meant to be.
def stored (s : WarehouseRun ν) (pair : String × String) : List (List Char) :=
  rowsOf (s.files.getD (c.tablePath pair.1 pair.2) [])

def Right (s : WarehouseRun ν) (call : WarehouseCall ν) : Prop :=
  (∀ pair ∈ (c.step s call).loads.keys,
    (c.stored (c.step s call) pair).map some = ((c.step s call).loads.getD pair []).map c.dumped) ∧
  match call with
  | .putAndCopy _ _ _ _ _ _ _ => ∀ e, (c.exec call s.files).1 = .loaded (.error e) →
    ∀ pair, c.stored (c.step s call) pair = c.stored s pair
  | .updateWatermark _ _ _ => True
  | .getWatermark tableName columnName => (c.exec call s.files).1 = .watermark (s.marks.get? (tableName,columnName))

-- No other pair or column that was named has the path.
def Alone (path : String × String) (s : WarehouseRun ν) (pairs marks : String × String → Prop) : Prop :=
  (∀ pair ∈ s.loads.keys, c.tablePath pair.1 pair.2 = path → pairs pair) ∧
  ∀ mark ∈ s.marks.keys, c.watermarkPath mark.1 mark.2 = path → marks mark

-- The calls that the names keep apart: a record that cannot be written is the first of its
-- batch, and a watermark that is read is one that reading leaves as it is.
def Clean (s : WarehouseRun ν) (call : WarehouseCall ν) : Prop :=
  match call with
  | .putAndCopy data targetTable schema batchId uuid4Hex loadTimestamp _ =>
    c.Alone (c.tablePath schema targetTable) s (fun pair => pair = (schema,targetTable)) (fun _ => False) ∧
    ∀ first rest, c.payloads (batchOf batchId uuid4Hex) loadTimestamp data = first :: rest →
      (∃ other ∈ rest, c.dumped other = none) → c.dumped first = none
  | .updateWatermark tableName columnName _ =>
    c.Alone (c.watermarkPath tableName columnName) s (fun _ => False) (fun mark => mark = (tableName,columnName))
  | .getWatermark tableName columnName =>
    c.Alone (c.watermarkPath tableName columnName) s (fun _ => False) (fun mark => mark = (tableName,columnName)) ∧
    ∀ value, s.marks.get? (tableName,columnName) = some value → Plain value

structure Represents (s : WarehouseRun ν) : Prop where
  tables : ∀ pair rows, s.loads.get? pair = some rows →
    ∃ lines, s.files.get? (c.tablePath pair.1 pair.2) = some (terminated lines) ∧ lines.map some = rows.map c.dumped
  watermarks : ∀ mark value, s.marks.get? mark = some value → s.files.get? (c.watermarkPath mark.1 mark.2) = some value.toList
  owned : ∀ path content, s.files.get? path = some content →
    (∃ pair ∈ s.loads.keys, c.tablePath pair.1 pair.2 = path) ∨ ∃ mark ∈ s.marks.keys, c.watermarkPath mark.1 mark.2 = path

variable {c}

theorem start_represents : c.Represents start :=
  ⟨fun _ _ found => (Option.some_ne_none _ found.symm).elim,fun _ _ found => (Option.some_ne_none _ found.symm).elim,
    fun _ _ found => (Option.some_ne_none _ found.symm).elim⟩

-- A path that no other name has is absent, or is the file of the name.
theorem free_path (holds : c.Represents s) (absent : ∀ pair ∈ s.loads.keys, c.tablePath pair.1 pair.2 ≠ path)
    (unmarked : ∀ mark ∈ s.marks.keys, c.watermarkPath mark.1 mark.2 ≠ path) : s.files.get? path = none := by
  cases found : s.files.get? path with
  | none => rfl
  | some content =>
    rcases holds.owned path content found with ⟨pair,named,same⟩ | ⟨mark,named,same⟩
    · exact absurd same (absent pair named)
    · exact absurd same (unmarked mark named)

-- The rows of a table that a put is about to extend.
theorem earlier_rows (holds : c.Represents s)
    (alone : c.Alone (c.tablePath schema tableName) s (fun pair => pair = (schema,tableName)) (fun _ => False)) :
    ∃ lines, s.files.getD (c.tablePath schema tableName) [] = terminated lines ∧
      lines.map some = (s.loads.getD (schema,tableName) []).map c.dumped := by
  cases found : s.loads.get? (schema,tableName) with
  | some rows =>
    obtain ⟨lines,content,same⟩ := holds.tables _ rows found
    refine ⟨lines,?_,?_⟩
    · simp [OrderedDict.getD,content]
    · simpa [OrderedDict.getD,found] using same
  | none =>
    have absent : s.files.get? (c.tablePath schema tableName) = none := by
      apply free_path holds
      · intro pair named equal
        have same := alone.1 pair named equal
        subst same
        exact (OrderedDict.get?_eq_none _ _).mp found named
      · exact fun mark named equal => alone.2 mark named equal
    refine ⟨[],?_,?_⟩
    · simp [OrderedDict.getD,absent,terminated]
    · simp [OrderedDict.getD,found]

-- A write to the file of a name keeps what the files mean, where it is of the name's rows.
theorem appended_represents (holds : c.Represents s)
    (alone : c.Alone (c.tablePath schema tableName) s (fun pair => pair = (schema,tableName)) (fun _ => False))
    (same : lines.map some = rows.map c.dumped) :
    c.Represents ⟨s.files.set (c.tablePath schema tableName) (terminated lines),s.loads.set (schema,tableName) rows,s.marks⟩ := by
  constructor
  · intro pair loads found
    rw [OrderedDict.get?_set] at found
    by_cases this : pair = (schema,tableName)
    · subst this
      rw [if_pos rfl] at found
      cases found
      exact ⟨lines,by rw [OrderedDict.get?_set,if_pos rfl],same⟩
    · rw [if_neg this] at found
      have apart : c.tablePath pair.1 pair.2 ≠ c.tablePath schema tableName :=
        fun equal => this (alone.1 pair ((OrderedDict.mem_keys _ _).mpr ⟨loads,found⟩) equal)
      rw [OrderedDict.get?_set,if_neg apart]
      exact holds.tables pair loads found
  · intro mark value found
    have apart : c.watermarkPath mark.1 mark.2 ≠ c.tablePath schema tableName :=
      alone.2 mark ((OrderedDict.mem_keys _ _).mpr ⟨value,found⟩)
    rw [OrderedDict.get?_set,if_neg apart]
    exact holds.watermarks mark value found
  · intro path content found
    rw [OrderedDict.get?_set] at found
    split at found
    · rename_i this
      exact .inl ⟨(schema,tableName),(OrderedDict.mem_keys_set _ _ _ _).mpr (.inl rfl),this.symm⟩
    · rcases holds.owned path content found with ⟨pair,named,equal⟩ | marked
      · exact .inl ⟨pair,(OrderedDict.mem_keys_set _ _ _ _).mpr (.inr named),equal⟩
      · exact .inr marked

theorem marked_represents (holds : c.Represents s)
    (alone : c.Alone (c.watermarkPath tableName columnName) s (fun _ => False) (fun mark => mark = (tableName,columnName))) (value : String) :
    c.Represents ⟨s.files.set (c.watermarkPath tableName columnName) value.toList,s.loads,s.marks.set (tableName,columnName) value⟩ := by
  constructor
  · intro pair rows found
    have apart : c.tablePath pair.1 pair.2 ≠ c.watermarkPath tableName columnName :=
      alone.1 pair ((OrderedDict.mem_keys _ _).mpr ⟨rows,found⟩)
    rw [OrderedDict.get?_set,if_neg apart]
    exact holds.tables pair rows found
  · intro mark last found
    rw [OrderedDict.get?_set] at found ⊢
    by_cases this : mark = (tableName,columnName)
    · subst this
      rw [if_pos rfl] at found
      cases found
      exact if_pos rfl
    · rw [if_neg this] at found
      have apart : c.watermarkPath mark.1 mark.2 ≠ c.watermarkPath tableName columnName :=
        fun equal => this (alone.2 mark ((OrderedDict.mem_keys _ _).mpr ⟨last,found⟩) equal)
      rw [if_neg apart]
      exact holds.watermarks mark last found
  · intro path content found
    rw [OrderedDict.get?_set] at found
    split at found
    · rename_i this
      exact .inr ⟨(tableName,columnName),(OrderedDict.mem_keys_set _ _ _ _).mpr (.inl rfl),this.symm⟩
    · rcases holds.owned path content found with loads | ⟨mark,named,equal⟩
      · exact .inl loads
      · exact .inr ⟨mark,(OrderedDict.mem_keys_set _ _ _ _).mpr (.inr named),equal⟩

theorem stored_rows (holds : c.Represents s) (pair : String × String) (named : pair ∈ s.loads.keys) :
    (c.stored s pair).map some = (s.loads.getD pair []).map c.dumped := by
  obtain ⟨rows,found⟩ := (OrderedDict.mem_keys _ _).mp named
  obtain ⟨lines,content,same⟩ := holds.tables pair rows found
  have plain : ∀ line ∈ lines, line ≠ [] ∧ '\n' ∉ line := by
    intro line member
    have dumped : some line ∈ rows.map c.dumped := same ▸ List.mem_map_of_mem member
    obtain ⟨row,_,equal⟩ := List.mem_map.mp dumped
    exact dumped_plain equal
  have rows_read : c.stored s pair = lines := by
    unfold stored
    rw [OrderedDict.getD,content]
    exact rowsOf_terminated lines plain
  rw [rows_read,same,OrderedDict.getD,found]
  rfl

-- What a put does to the files and to what they mean.
theorem put_step (holds : c.Represents s)
    (clean : c.Clean s (.putAndCopy data targetTable schema batchId uuid4Hex loadTimestamp elapsedMs)) :
    ∃ lines rows, c.step s (.putAndCopy data targetTable schema batchId uuid4Hex loadTimestamp elapsedMs) =
        ⟨s.files.set (c.tablePath schema targetTable) (terminated lines),s.loads.set (schema,targetTable) rows,s.marks⟩ ∧
      lines.map some = rows.map c.dumped ∧
      ∀ e, (c.exec (.putAndCopy data targetTable schema batchId uuid4Hex loadTimestamp elapsedMs) s.files).1 = .loaded (.error e) →
        terminated lines = s.files.getD (c.tablePath schema targetTable) [] := by
  obtain ⟨alone,atomic⟩ := clean
  obtain ⟨earlier,content,same⟩ := earlier_rows holds alone
  cases result : (c.serialized (c.payloads (batchOf batchId uuid4Hex) loadTimestamp data)).2 with
  | none =>
    have complete := serialized_complete _ result
    refine ⟨earlier ++ (c.serialized (c.payloads (batchOf batchId uuid4Hex) loadTimestamp data)).1,
      s.loads.getD (schema,targetTable) [] ++ c.payloads (batchOf batchId uuid4Hex) loadTimestamp data,?_,?_,?_⟩
    · simp only [step,exec,result,record,loaded,appendLines,content,terminated_append]
    · rw [List.map_append,List.map_append,same,complete]
    · intro e raised
      simp [exec,result] at raised
  | some e =>
    obtain ⟨other,member,fails⟩ := serialized_failed result
    have nothing : (c.serialized (c.payloads (batchOf batchId uuid4Hex) loadTimestamp data)).1 = [] := by
      cases batch : c.payloads (batchOf batchId uuid4Hex) loadTimestamp data with
      | nil => rfl
      | cons first rest =>
        apply serialized_first
        rw [batch] at member
        rcases List.mem_cons.mp member with rfl | later
        · exact fails
        · exact atomic first rest batch ⟨other,later,fails⟩
    refine ⟨earlier,s.loads.getD (schema,targetTable) [],?_,same,fun _ _ => content.symm⟩
    simp only [step,exec,result,record,appendLines,content,nothing]
    simp [terminated]

theorem step_represents (holds : c.Represents s) (clean : c.Clean s call) : c.Represents (c.step s call) := by
  cases call with
  | putAndCopy data targetTable schema batchId uuid4Hex loadTimestamp elapsedMs =>
    obtain ⟨lines,rows,same,meant,_⟩ := put_step holds clean
    rw [same]
    exact appended_represents holds clean.1 meant
  | updateWatermark tableName columnName value => exact marked_represents holds clean value
  | getWatermark tableName columnName => exact ⟨holds.tables,holds.watermarks,holds.owned⟩

theorem step_right (holds : c.Represents s) (clean : c.Clean s call) : c.Right s call := by
  refine ⟨fun pair named => stored_rows (step_represents holds clean) pair named,?_⟩
  cases call with
  | putAndCopy data targetTable schema batchId uuid4Hex loadTimestamp elapsedMs =>
    intro e raised pair
    obtain ⟨lines,rows,same,_,unchanged⟩ := put_step holds clean
    unfold stored
    rw [same,OrderedDict.getD_set]
    split
    · rename_i here
      rw [here]
      exact congrArg rowsOf (unchanged e raised)
    · rfl
  | updateWatermark tableName columnName value => trivial
  | getWatermark tableName columnName =>
    obtain ⟨alone,plain⟩ := clean
    apply congrArg WarehouseAnswer.watermark
    cases found : s.marks.get? (tableName,columnName) with
    | some value =>
      have read := (readWatermark_plain value).mpr (plain value found)
      rw [holds.watermarks _ _ found,Option.bind_some,read]
    | none =>
      have absent : s.files.get? (c.watermarkPath tableName columnName) = none := by
        apply free_path holds
        · exact fun pair named equal => alone.1 pair named equal
        · intro mark named equal
          have same := alone.2 mark named equal
          subst same
          exact (OrderedDict.get?_eq_none _ _).mp found named
      rw [absent]
      rfl

theorem named_tables_kept (c : LocalWarehouseHandler ν) (calls : List (WarehouseCall ν))
    (clean : Runs.Along c.step c.Clean start calls) : Runs.Along c.step c.Right start calls :=
  Runs.along_gives (fun _ _ => step_represents) (fun _ _ => step_right) start_represents clean

-- Records of JSON values and of values that have no JSON text, such as one that contains itself.
def jsonHandler : LocalWarehouseHandler (Option Json) where
  isalnum := Char.isAlphanum
  ascii _ _ := rfl
  text value := some (.str value)
  dumps record :=
    match record.entries.mapM fun entry => entry.2.map (entry.1,·) with
    | none => .error "Circular reference detected"
    | some members =>
      let line := Json.dumpsLine (.object members)
      if line ≠ "" ∧ '\n' ∉ line.toList then .ok line else .error "Circular reference detected"
  oneLine := by
    intro record line result
    split at result
    · cases result
    · simp only at result
      split at result
      · rename_i single
        cases result
        exact single
      · cases result

def exampleRow (id : String) : OrderedDict String (Option Json) := .ofList [("id",some (.str id))]

def examplePut (tableName batchId : String) (data : List (OrderedDict String (Option Json))) : WarehouseCall (Option Json) :=
  .putAndCopy data tableName "RAW" (some batchId) "" (fun _ => "2026-01-01T00:00:00+00:00") 1

def exampleCalls : List (WarehouseCall (Option Json)) :=
  [examplePut "scores" "b1" [exampleRow "t1"],.updateWatermark "scores" "LOAD_TIMESTAMP" "2026-01-01",.getWatermark "scores" "LOAD_TIMESTAMP"]

theorem named_tables_kept_scores : Runs.Along jsonHandler.step jsonHandler.Right start exampleCalls := by
  refine named_tables_kept jsonHandler exampleCalls ⟨⟨⟨by decide,by decide⟩,?_⟩,⟨by decide,by decide⟩,⟨⟨by decide,by decide⟩,?_⟩,trivial⟩
  · intro first rest same ⟨other,member,_⟩
    cases same
    cases member
  · intro value found
    cases found
    decide

theorem named_tables_shared : ¬∀ calls, Runs.Along jsonHandler.step jsonHandler.Right start calls := by
  intro always
  have wrong := always [examplePut "a.b" "b1" [exampleRow "t1"],examplePut "a_b" "b2" [exampleRow "t2"]]
  have rows := wrong.2.1.1 ("RAW","a.b") (by decide)
  have lengths := congrArg List.length rows
  revert lengths
  decide

end LocalWarehouseHandler
end RiskPulse
