import ConsoleFeed.Http.EventStream
import ConsoleFeed.Proofs.Text.Utf8

/-!
# Frames of an event stream

A payload of one line is sent as one `data` field. Where every payload is, and comments stand
between the events in any number, the client reads the payloads that were sent, in their order: each
event ends with the empty line of its own frame, so what is read of one frame never depends on
another.
-/

namespace ConsoleFeed.EventStream

/-- The text is one line. -/
def OneLine (text : String) : Prop :=
  '\r' ∉ text.toList ∧ '\n' ∉ text.toList

theorem lines_of_notMem {characters : List Char} (absent : '\n' ∉ characters) :
    lines characters = [characters] := by
  induction characters with
  | nil => rfl
  | cons character rest ih =>
      rcases List.ne_and_not_mem_of_not_mem_cons absent with ⟨different, absentLater⟩
      simp [lines, Ne.symm different, ih absentLater]

/-- A payload of one line is sent in one field. -/
theorem text?_event {payload : String} (oneLine : OneLine payload) :
    (Frame.event payload).text? = some ("data: " ++ payload ++ "\n\n") := by
  have whole : encode payload = "data: " ++ payload ++ "\n\n" := by
    apply String.toList_inj.mp
    rw [encode, lines_of_notMem oneLine.2]
    simp [fieldStart]
  simp only [Frame.text?, oneLine.1, if_false, whole]

theorem text?_comment {text : String} (oneLine : OneLine text) :
    (Frame.comment text).text? = some (":" ++ text ++ "\n\n") := by
  simp only [Frame.text?, oneLine.1, oneLine.2, or_self, if_false]

section Reading

theorem endedLines_line {line : List Char} (noReturn : '\r' ∉ line) (noFeed : '\n' ∉ line) :
    ∀ before rest, endedLines before (line ++ '\n' :: rest) =
      (before ++ line) :: endedLines [] rest := by
  induction line with
  | nil =>
      intro before rest
      rw [List.nil_append, endedLines, List.append_nil]
  | cons character line ih =>
      intro before rest
      rcases List.ne_and_not_mem_of_not_mem_cons noReturn with ⟨notReturn, noReturnLater⟩
      rcases List.ne_and_not_mem_of_not_mem_cons noFeed with ⟨notFeed, noFeedLater⟩
      rw [List.cons_append, endedLines, ih noReturnLater noFeedLater]
      · simp only [List.append_assoc, List.cons_append, List.nil_append]
      · exact fun _ same _ => notReturn same.symm
      · exact fun same => notReturn same.symm
      · exact fun same => notFeed same.symm

/-- A frame is a line and the empty line that ends it. -/
def Frame.line : Frame → List Char
  | .event payload => fieldStart ++ ' ' :: payload.toList
  | .comment text => ':' :: text.toList

/-- The frame is sent in one line. -/
def Frame.IsPlain : Frame → Prop
  | .event payload => OneLine payload
  | .comment text => OneLine text

theorem Frame.IsPlain.text {frame : Frame} (plain : frame.IsPlain) :
    ∃ text, frame.text? = some text ∧ text.toList = frame.line ++ ['\n', '\n'] := by
  cases frame with
  | event payload =>
      refine ⟨_, text?_event plain, ?_⟩
      simp [Frame.line, fieldStart]
  | comment text =>
      refine ⟨_, text?_comment plain, ?_⟩
      simp [Frame.line]

theorem Frame.IsPlain.noBreak {frame : Frame} (plain : frame.IsPlain) :
    '\r' ∉ frame.line ∧ '\n' ∉ frame.line := by
  cases frame with
  | event payload =>
      rcases plain with ⟨noReturn, noFeed⟩
      simp [Frame.line, fieldStart, noReturn, noFeed]
  | comment text =>
      rcases plain with ⟨noReturn, noFeed⟩
      simp [Frame.line, noReturn, noFeed]

theorem Frame.line_starts (frame : Frame) :
    ∃ first more, frame.line = first :: more ∧ first ≠ '\uFEFF' := by
  cases frame with
  | event payload => exact ⟨'d', _, rfl, by decide⟩
  | comment text => exact ⟨':', _, rfl, by decide⟩

theorem dataOf_line (frame : Frame) :
    dataOf frame.line = frame.payload?.toList.map String.toList := by
  cases frame with
  | event payload => simp [Frame.line, Frame.payload?, fieldStart, dataOf, valueOf]
  | comment text => simp [Frame.line, Frame.payload?, dataOf]

/-- Between two events a frame is read on its own. -/
theorem readLines_frame (frame : Frame) (rest : List (List Char)) :
    readLines [] (frame.line :: [] :: rest) = frame.payload?.toList ++ readLines [] rest := by
  rcases frame.line_starts with ⟨first, more, opened, -⟩
  have data := dataOf_line frame
  rw [opened] at data ⊢
  rw [readLines, data]
  · cases frame <;> simp [Frame.payload?, readLines]
  · exact nofun

theorem readLines_body {frames : List Frame} (plain : ∀ frame ∈ frames, frame.IsPlain) :
    ∃ body, body? frames = some body ∧ withoutMark body.toList = body.toList ∧
      readLines [] (endedLines [] body.toList) = frames.filterMap Frame.payload? := by
  induction frames with
  | nil => exact ⟨"", rfl, by rfl, by rfl⟩
  | cons frame rest ih =>
      have here := plain frame List.mem_cons_self
      rcases ih fun frame member => plain frame (List.mem_cons_of_mem _ member) with
        ⟨body, built, -, read⟩
      rcases here.text with ⟨text, builtHere, spelled⟩
      rcases here.noBreak with ⟨noReturn, noFeed⟩
      have whole : (text ++ body).toList = frame.line ++ '\n' :: '\n' :: body.toList := by
        rw [String.toList_append, spelled, List.append_assoc]
        rfl
      refine ⟨text ++ body, ?_, ?_, ?_⟩
      · simp only [body?, built, builtHere, Option.bind_some, Option.map_some]
      · rcases frame.line_starts with ⟨first, more, opened, unmarked⟩
        rw [whole, opened, List.cons_append, withoutMark]
        rintro rest same
        exact unmarked (List.cons.inj same).1
      · have ended : endedLines [] (text ++ body).toList =
            frame.line :: [] :: endedLines [] body.toList := by
          rw [whole, endedLines_line noReturn noFeed, List.nil_append]
          exact congrArg _ (endedLines_line List.not_mem_nil List.not_mem_nil [] body.toList)
        rw [ended, readLines_frame, read, List.filterMap_cons]
        cases frame.payload? <;> rfl

end Reading

/-- Frames of one line each, whatever comments are among them, are read as the payloads that they
carry. -/
theorem decode_body {frames : List Frame} (plain : ∀ frame ∈ frames, frame.IsPlain) :
    ∃ body, body? frames = some body ∧
      decode (Utf8.encode body) = frames.filterMap Frame.payload? := by
  rcases readLines_body plain with ⟨body, built, unmarked, read⟩
  have text : Utf8.decodeReplacing (Utf8.encode body) = body := by
    rw [Utf8.decodeReplacing, Utf8.decode?_encode]
  exact ⟨body, built, by rw [decode, text, unmarked, read]⟩

example : decode (Utf8.encode ":\n\ndata: \x7b\x7d\n\n: a\n\ndata: 1\n\n") =
    ["\x7b\x7d", "1"] := by rfl

end ConsoleFeed.EventStream
