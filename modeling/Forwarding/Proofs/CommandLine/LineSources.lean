import Forwarding.Proofs.CommandLine.Endings
import Forwarding.Proofs.Text.LineEnd
import Forwarding.Proofs.Text.Utf8

/-!
Where header lines come from. Lines in a file and lines in options are gathered as one list, so a
run does not depend on which of them are in the file, nor on how the file ends its lines.
-/
namespace Forwarding.CommandLine

open Text (IsLine LineEnd joinLines)

variable {s s' : Surroundings} {i i' : Invocation} {path : Option Operand}
  {options : ResolveOptions} {config : Config} {halt : Halt} {lines lines' : List Text}

/-- A run depends on its header lines through the fields that they spell. -/
theorem resolveLines_congr
    (h : lines.filterMap HeaderSet.fieldOfLine? = lines'.filterMap HeaderSet.fieldOfLine?)
    (trusted : Option Text) (verbose report : Bool) :
    resolveLines trusted verbose report lines = resolveLines trusted verbose report lines' := by
  rw [resolveLines, resolveLines, HeaderSet.ofLines, HeaderSet.ofLines, h]

theorem optionLines_text (lines : List Text) : optionLines (lines.map .text) = .ok lines := by
  induction lines with
  | nil => rfl
  | cons t lines ih => rw [List.map_cons, optionLines, ih, Except.map]

theorem readLines_encode (t : Text) :
    readLines (Text.Utf8.encode t) = .ok (Text.lines (Text.unifyLineEnds t)) := by
  rw [readLines, Text.Utf8.decode_encode]

/-- The lines of a file and those of options spell the same fields as all of them in one list. -/
theorem exists_headerLines_of_bytes {first : List Text} (second : List Text) (e : LineEnd)
    (final : Bool) (hlines : ∀ t ∈ first, IsLine t)
    (hbytes : HeaderBytes s options.file (Text.Utf8.encode (joinLines e final first))) :
    ∃ lines, headerLines s { options with headers := second.map .text } = .ok lines ∧
      lines.filterMap HeaderSet.fieldOfLine? =
        (first ++ second).filterMap HeaderSet.fieldOfLine? := by
  refine ⟨Text.lines (joinLines .lineFeed final first) ++ second, ?_, ?_⟩
  · rw [headerLines, fileLines_of_bytes hbytes, readLines_encode,
      Text.unifyLineEnds_joinLines e final hlines, optionLines_text]
    rfl
  · rw [List.filterMap_append, List.filterMap_append,
      Text.filterMap_lines_joinLines rfl final hlines]

/-- Without a file the header lines are those of the options. -/
theorem headerLines_of_options (s : Surroundings) (options : ResolveOptions) (lines : List Text) :
    headerLines s { options with headers := lines.map .text, file := none } = .ok lines := by
  rw [headerLines, optionLines_text]
  rfl

/-- Runs end alike when the configuration stops both of them in the same way. -/
theorem run_eq_of_loadConfig (hcommand : i.command.Loads) (hcommand' : i'.command.Loads)
    (hload : loadConfig s i.config = .error halt) (hload' : loadConfig s' i'.config = .error halt) :
    i.run s = i'.run s' := by
  rw [Invocation.run, Invocation.run, runCommand_of_loadConfig hcommand hload,
    runCommand_of_loadConfig hcommand' hload']

/-- The place of header lines does not matter. When some of them are the text of a file or of
standard input in UTF-8, under whatever line ends, and the others are in options, the run ends as
the one that has all of them in options, for any configuration, also where it has none. Once the
configuration is loaded both resolve the whole list. The other run may have other surroundings, as
long as the same configuration is loaded from them. -/
theorem run_lineSources (path : Option Operand) (verbose : Bool) (options : ResolveOptions)
    (first second : List Text) (e : LineEnd) (final : Bool)
    (hload : loadConfig s' path = loadConfig s path) (hlines : ∀ t ∈ first, IsLine t)
    (hbytes : HeaderBytes s options.file (Text.Utf8.encode (joinLines e final first))) :
    let fromFile : Invocation :=
      ⟨path, verbose, .resolve { options with headers := second.map .text }⟩
    let fromOptions : Invocation :=
      ⟨path, verbose, .resolve
        { options with headers := (first ++ second).map .text, file := none }⟩
    fromFile.run s = fromOptions.run s' ∧
      ∀ config, loadConfig s path = .ok config →
        fromFile.run s = .ok (resolveLines (withTrusted config options.trustHeader).trusted verbose
          options.report (first ++ second)) := by
  intro fromFile fromOptions
  obtain ⟨lines, hfile, hfields⟩ := exists_headerLines_of_bytes second e final hlines hbytes
  have hresolves (config : Config) (hconfig : loadConfig s path = .ok config) :
      fromFile.run s = .ok (resolveLines (withTrusted config options.trustHeader).trusted verbose
        options.report (first ++ second)) := by
    have hcommand : fromFile.command = .resolve { options with headers := second.map .text } := rfl
    have hrun := Invocation.run_of_headerLines hcommand hconfig hfile
    rw [← resolveLines_congr hfields]
    exact hrun
  refine ⟨?_, hresolves⟩
  cases hconfig : loadConfig s path with
  | error halt => exact run_eq_of_loadConfig trivial trivial hconfig (hload.trans hconfig)
  | ok config =>
    rw [hresolves config hconfig]
    have hoptions := headerLines_of_options s' options (first ++ second)
    have hcommand : fromOptions.command =
      .resolve { options with headers := (first ++ second).map .text, file := none } := rfl
    exact (Invocation.run_of_headerLines hcommand (hload.trans hconfig) hoptions).symm

/-- A header that is repeated on both sides of the split. The file begins with a request line and
ends with an empty line, which is lost. -/
theorem run_lineSources_straddling :
    let first : List Text := ["GET / HTTP/1.1", "X-Forwarded-For: 10.0.0.1", []]
    let second : List Text := ["x-forwarded-for: 8.8.8.8"]
    let content : Text := "GET / HTTP/1.1\r\nX-Forwarded-For: 10.0.0.1\r\n"
    let tree : FileTree := .ofEntries [("h", Text.Utf8.encode content)]
    let s : Surroundings := ⟨tree.access, none, []⟩
    let s' : Surroundings := ⟨(FileTree.ofEntries []).access, none, Text.Utf8.encode content⟩
    let options : ResolveOptions := ⟨second.map .text, some (.text "h"), none, false⟩
    let optionsOnly : ResolveOptions := ⟨(first ++ second).map .text, none, none, false⟩
    loadConfig s' none = loadConfig s none ∧ (∀ t ∈ first, IsLine t) ∧
      HeaderBytes s options.file (Text.Utf8.encode (joinLines .both false first)) ∧
      Invocation.run s ⟨none, false, .resolve options⟩ = .ok ⟨0, "8.8.8.8\n", []⟩ ∧
      Invocation.run s' ⟨none, false, .resolve optionsOnly⟩ = .ok ⟨0, "8.8.8.8\n", []⟩ := by
  intro first second content tree s s' options optionsOnly
  have hnone : loadConfig s none = .ok ⟨none⟩ := by decide +kernel
  have hload : loadConfig s' none = loadConfig s none := by decide +kernel
  have hlines : ∀ t ∈ first, IsLine t := by decide
  have hbytes : HeaderBytes s options.file (Text.Utf8.encode (joinLines .both false first)) :=
    .file (by decide) (by decide) (by decide +kernel)
  obtain ⟨hsame, hresolves⟩ :=
    run_lineSources none false options first second .both false hload hlines hbytes
  have houtcome : resolveLines none false false (first ++ second) = ⟨0, "8.8.8.8\n", []⟩ := by
    decide +kernel
  have hfile := (hresolves _ hnone).trans (congrArg Except.ok houtcome)
  exact ⟨hload, hlines, hbytes, hfile, hsame.symm.trans hfile⟩

end Forwarding.CommandLine
