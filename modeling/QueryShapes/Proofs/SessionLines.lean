import QueryShapes.Command.Run
import QueryShapes.Proofs.PrintedRows
import QueryShapes.Proofs.Words

/-!
# Lines of a session

- `Envelope.isCell_render_json`: an answer printed as JSON without indentation is a single line.
- `Pool.Transcript`: what a session prints, told line by line.
- `Pool.transcript_iff`: the replies to the statements of some lines make up their transcript.
- `Pool.session_transcript_iff`: so the lines that a session prints are the transcript of the lines
  of its input.
-/

namespace QueryShapes

/-! ## Answers on one line -/

namespace Json

theorem Numbered.sorted {kind : String → Prop} {value : Json} (numbered : Numbered kind value) :
    Numbered kind value.sorted := by
  induction numbered with
  | null => exact .null
  | boolean b => exact .boolean b
  | number h => exact .number h
  | string s => exact .string s
  | array _ ih =>
    rw [Json.sorted, sortedElements_eq]
    apply Numbered.array
    intro element mem
    obtain ⟨original, here, rfl⟩ := List.mem_map.mp mem
    exact ih original here
  | object _ ih =>
    rw [Json.sorted, sortedMembers_eq]
    apply Numbered.object
    intro member mem
    obtain ⟨original, here, rfl⟩ := List.mem_map.mp ((sortMembers_perm _).subset mem)
    exact ih original here

end Json

theorem Double.numbered_toJson (x : Double) : x.toJson.Numbered IsCell := by
  unfold toJson
  split
  · exact .number (.write (by decide) x)
  · exact .null

theorem Value.numbered_toJson (value : Value) : value.toJson.Numbered IsCell := by
  cases value with
  | null => exact .null
  | integer n => exact .number (.int n.toInt)
  | decimal x => exact x.numbered_toJson
  | text s | date s => exact .string s
  | boolean b => exact .boolean b

theorem Row.numbered_toJson (row : Row) : row.toJson.Numbered IsCell := by
  apply Json.Numbered.object
  intro member mem
  obtain ⟨field, _, rfl⟩ := List.mem_map.mp mem
  exact field.2.numbered_toJson

theorem Acknowledgment.numbered_toJson (ack : Acknowledgment) : ack.toJson.Numbered IsCell := by
  apply Json.Numbered.object
  intro member mem
  obtain rfl | rfl : member = _ ∨ member = _ := by simpa using mem
  · exact .number (.nat ack.affectedRows)
  · exact .string ack.insertId

namespace Envelope

theorem numbered_toJson (envelope : Envelope) : envelope.toJson.Numbered IsCell := by
  cases envelope with
  | rows answered =>
    have listed : (Json.array (answered.map Row.toJson)).Numbered IsCell := by
      apply Json.Numbered.array
      intro element mem
      obtain ⟨row, _, rfl⟩ := List.mem_map.mp mem
      exact row.numbered_toJson
    exact .array (List.forall_mem_singleton.mpr listed)
  | acknowledged ack => exact .array (List.forall_mem_singleton.mpr ack.numbered_toJson)

/-- No text, name or number that an answer holds breaks its line. -/
theorem isCell_render_json (envelope : Envelope) : IsCell (envelope.render .json false) :=
  envelope.numbered_toJson.sorted.isCell_compact

end Envelope

/-! ## Lines -/

/-- The lines of a text. What follows the last line break is a line unless it is empty. -/
def linesOf (text : String) : List String :=
  let pieces := (Text.splitOn (· == '\n') text.toList).map String.ofList
  if pieces.getLast? = some "" then pieces.dropLast else pieces

/-- Texts that are ended by line breaks are the lines of what they make up. -/
theorem linesOf_ended {texts : List String} (single : ∀ text ∈ texts, IsCell text) :
    linesOf (String.join (texts.map fun text => text ++ "\n")) = texts := by
  have pieces : (Text.splitOn (· == '\n') (String.join (texts.map fun text => text ++ "\n")).toList).map
      String.ofList = texts ++ [""] := by
    induction texts with
    | nil => rfl
    | cons first rest ih =>
      have unbroken : ∀ c ∈ first.toList, (c == '\n') = false := by
        intro c hc
        exact beq_eq_false_iff_ne.mpr (single first List.mem_cons_self c hc).2
      have later := ih fun text mem => single text (List.mem_cons_of_mem first mem)
      have joined : (String.join ((first :: rest).map fun text => text ++ "\n")).toList =
          first.toList ++ '\n' :: (String.join (rest.map fun text => text ++ "\n")).toList := by
        simp
      rw [joined, Text.splitOn_append rfl, Text.splitOn_of_forall_not unbroken, List.map_append, later]
      simp
  rw [linesOf, pieces]
  simp

/-- A line without the blanks at its ends. -/
def trimmed (line : String) : String := String.ofList (Text.trim line.toList)

/-- A line that is not blank and no comment. -/
def HoldsStatement (line : String) : Prop :=
  trimmed line ≠ "" ∧ ¬ ['-', '-'] <+: (trimmed line).toList

/-- The statement that a session reads on a line. -/
def statementOn? (line : String) : Option String := statement? line.toList

theorem statementOn?_of_holds {line : String} (holds : HoldsStatement line) :
    statementOn? line = some (trimmed line) := by
  obtain ⟨filled, plain⟩ := holds
  rw [trimmed, String.toList_ofList] at plain
  rw [statementOn?, statement?]
  split
  · rename_i blank
    exact absurd (by rw [trimmed, blank]) filled
  · rename_i comment
    simp [comment] at plain
  · rfl

theorem statementOn?_of_not_holds {line : String} (empty : ¬ HoldsStatement line) :
    statementOn? line = none := by
  rw [statementOn?, statement?]
  split
  · rfl
  · rfl
  · rename_i filled other
    refine absurd ⟨?_, ?_⟩ empty
    · simpa [trimmed] using filled
    · rw [trimmed, String.toList_ofList]
      rintro ⟨rest, begun⟩
      exact other rest begun.symm

/-- An empty line holds no statement, so it does not matter whether one ends the input. -/
theorem statements_eq (input : String) : statements input = (linesOf input).filterMap statementOn? := by
  have pieces : statements input =
      ((Text.splitOn (· == '\n') input.toList).map String.ofList).filterMap statementOn? := by
    rw [statements, List.filterMap_map]
    exact List.filterMap_congr fun piece _ => by simp [statementOn?]
  rw [pieces]
  unfold linesOf
  generalize (Text.splitOn (· == '\n') input.toList).map String.ofList = lines
  dsimp only
  split
  · rename_i ended
    obtain ⟨others, rfl⟩ := List.getLast?_eq_some_iff.mp ended
    have empty : statementOn? "" = none := rfl
    rw [List.dropLast_concat, List.filterMap_append, List.filterMap_cons_none empty]
    exact List.append_nil _
  · rfl

/-! ## Transcripts -/

namespace Pool

/-- What is printed, line by line, for the lines of an input: answers as JSON without indentation.
Each statement takes the next id. -/
inductive Transcript (pool : Pool) : (ids : Nat → String) → (lines printed : List String) → Prop
  | done {ids : Nat → String} : Transcript pool ids [] []
  | skipped {ids : Nat → String} {line : String} {lines printed : List String}
      (none : ¬ HoldsStatement line) (later : Transcript pool ids lines printed) :
      Transcript pool ids (line :: lines) printed
  | failed {ids : Nat → String} {line : String} {lines printed : List String} {failure : Failure}
      (holds : HoldsStatement line) (fails : pool.execute (ids 0) (trimmed line) [] = .error failure)
      (later : Transcript pool (fun n => ids (n + 1)) lines printed) :
      Transcript pool ids (line :: lines) printed
  | answered {ids : Nat → String} {line : String} {lines printed : List String} {answer : Envelope}
      (holds : HoldsStatement line) (answers : pool.execute (ids 0) (trimmed line) [] = .ok answer)
      (later : Transcript pool (fun n => ids (n + 1)) lines printed) :
      Transcript pool ids (line :: lines) (answer.render .json false :: printed)

/-- The answers that are printed for statements. -/
def answers (pool : Pool) (ids : Nat → String) (texts : List String) : List String :=
  (pool.replies ⟨.json, false⟩ ids texts).filterMap Except.toOption

theorem answers_cons (pool : Pool) (ids : Nat → String) (text : String) (texts : List String) :
    pool.answers ids (text :: texts) =
      (pool.reply ⟨.json, false⟩ (ids 0) text).toOption.toList ++
        pool.answers (fun n => ids (n + 1)) texts := by
  rw [answers, replies, List.mapIdx_cons, answers, replies]
  cases pool.reply ⟨.json, false⟩ (ids 0) text <;> rfl

theorem isCell_of_mem_answers {pool : Pool} {ids : Nat → String} {texts : List String} {text : String}
    (mem : text ∈ pool.answers ids texts) : IsCell text := by
  induction texts generalizing ids with
  | nil => cases mem
  | cons first rest ih =>
    rw [answers_cons] at mem
    obtain here | later := List.mem_append.mp mem
    · rw [reply] at here
      cases answered : pool.execute (ids 0) first [] with
      | error => simp [answered, Except.map, Except.toOption] at here
      | ok answer =>
        obtain rfl : text = answer.render .json false := by
          simpa [answered, Except.map, Except.toOption] using here
        exact answer.isCell_render_json
    · exact ih later

theorem transcript_iff (pool : Pool) (ids : Nat → String) (lines printed : List String) :
    Transcript pool ids lines printed ↔
      pool.answers ids (lines.filterMap statementOn?) = printed := by
  constructor
  · intro transcript
    induction transcript with
    | done => rfl
    | skipped none _ ih => rwa [List.filterMap_cons_none (statementOn?_of_not_holds none)]
    | failed holds fails _ ih =>
      rw [List.filterMap_cons_some (statementOn?_of_holds holds), answers_cons, reply, fails]
      exact ih
    | answered holds answers _ ih =>
      rw [List.filterMap_cons_some (statementOn?_of_holds holds), answers_cons, reply, answers]
      exact congrArg _ ih
  · rintro rfl
    induction lines generalizing ids with
    | nil => exact .done
    | cons line lines ih =>
      by_cases holds : HoldsStatement line
      · rw [List.filterMap_cons_some (statementOn?_of_holds holds), answers_cons, reply]
        cases answered : pool.execute (ids 0) (trimmed line) [] with
        | error failure => exact .failed holds answered (ih _)
        | ok answer => exact .answered holds answered (ih _)
      · rw [List.filterMap_cons_none (statementOn?_of_not_holds holds)]
        exact .skipped holds (ih ids)

/-- A session prints one line for each statement that is carried out, in the order of the input, and
nothing for other lines. -/
theorem session_transcript_iff (pool : Pool) (ids : Nat → String) (input : String) :
    let output := ((Setup.mk pool ⟨.json, false⟩).answer none input ids).outputText
    output = String.join ((linesOf output).map fun line => line ++ "\n") ∧
    ∀ printed, Transcript pool ids (linesOf input) printed ↔ linesOf output = printed := by
  intro output
  have joined : output =
      String.join ((pool.answers ids (statements input)).map fun text => text ++ "\n") := rfl
  have lines : linesOf output = pool.answers ids (statements input) := by
    rw [joined, linesOf_ended fun text mem => isCell_of_mem_answers mem]
  constructor
  · rw [lines, joined]
  · intro printed
    rw [lines, statements_eq, transcript_iff]

end Pool

end QueryShapes
