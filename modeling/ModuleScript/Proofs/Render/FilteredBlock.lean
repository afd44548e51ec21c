import ModuleScript.Proofs.Render.Controllers
import ModuleScript.Proofs.Stimulus.PaddedLine
import ModuleScript.Proofs.Text.FilteredLines

/-!
# What the filter leaves of a block

The filter takes lines out of a block and nothing else, but for blanks at the two ends. Trimming,
before the block is cut into lines and after they are joined, moves no line from one side of the
filter to the other. What comes out is trimmed and holds no line to be dropped, and such a text
comes out of the filter as it went in.
-/

namespace ModuleScript

open Text

namespace Stimulus.Application

variable {a : Application} {text : String}

/-- Whether the block is trimmed before it is cut makes no difference. -/
theorem process_eq_trim_filter (happ : Script.isIdentifier a.name = true) (text : String) :
    a.process text = trim (joinLines ((lines text).filter (!a.handles ·))) :=
  trim_filter_lines_trim (fun _ _ hpad ↦ by rw [handles_of_padded happ hpad]) text

/-- What comes out of the filter is trimmed. -/
theorem trim_process (a : Application) (text : String) :
    trim (a.process text) = a.process text := by
  rw [process, trim_trim]

/-- It holds no line to be dropped. -/
theorem handles_of_mem_process (happ : Script.isIdentifier a.name = true) {line : String}
    (h : line ∈ lines (a.process text)) : a.handles line = false := by
  by_cases hblank : Blanks line.toList
  · exact handles_of_blanks hblank
  · obtain ⟨kept, -, hkept, hpad⟩ := exists_kept_of_mem_process h hblank
    rw [← handles_of_padded happ hpad, hkept]

/-- A trimmed text without lines to be dropped comes out as it is. -/
theorem process_eq_self (htrim : trim text = text)
    (hlines : ∀ line ∈ lines text, a.handles line = false) : a.process text = text := by
  have hkept : (lines text).filter (!a.handles ·) = lines text :=
    List.filter_eq_self.mpr fun line hline ↦ by rw [hlines line hline, Bool.not_false]
  rw [process, htrim, hkept, joinLines_lines, htrim]

end Stimulus.Application

namespace Renderer

open Stimulus

variable {names : List String} {block : String} {given : Option String}
  {analyzer : Option Analyzer} {r : Renderer}

/-- The filter of an application judges a line as it judges it without the blanks around it. Of
every text it leaves the lines it does not drop, verbatim and in order, but for blanks at the two
ends; none of the lines it leaves would be dropped; and it leaves its own results alone. -/
theorem filter_only_takes_lines_out (hr : stimulus? names block given analyzer = .ok r) :
    ∃ a : Application, r.kind = .stimulus a ∧
      (∀ line, a.handles (trim line) = a.handles line) ∧
      ∀ text, r.process text = trim (joinLines ((lines text).filter (!a.handles ·))) ∧
        (∀ line ∈ lines (r.process text), a.handles line = false) ∧
        r.process (r.process text) = r.process text := by
  obtain ⟨a, happ, -, rfl⟩ := exists_discovered hr
  refine ⟨a, rfl, fun line ↦ (Application.handles_of_padded happ (padded_trim line)).symm,
    fun text ↦ ?_⟩
  have hkept : ∀ line ∈ lines (a.process text), a.handles line = false :=
    fun line hline ↦ Application.handles_of_mem_process happ hline
  exact ⟨Application.process_eq_trim_filter happ text, hkept,
    Application.process_eq_self (a.trim_process text) hkept⟩

/-- An import that is generated anew is dropped with wide and narrow blanks around it, and so is the
start of the application; the lines between them keep theirs, but for the two ends. -/
theorem wide_blanks_do_not_hide_lines :
    ∃ (a : Application) (r : Renderer),
      stimulus? ["HelloController"] "run();" (some "app") none = .ok r ∧ r.kind = .stimulus a ∧
      a.handles "\u00a0import HelloController from 'HelloController';\u2003" = true ∧
      r.process ("\u2028\n\u00a0import HelloController from 'HelloController';\u2003\n" ++
        "\u3000 run(); \n\n stop();\u2029\nconst app = Application.start();\u2007") =
          "run(); \n\n stop();" ∧
      r.process "run(); \n\n stop();" = "run(); \n\n stop();" := by
  have happ : Script.isIdentifier (nameOr "application" (some "app")) = true := by decide +kernel
  have hr := stimulus?_of_isIdentifier ["HelloController"] "run();" none happ
  obtain ⟨a, hkind, htrim, hprocess⟩ := filter_only_takes_lines_out hr
  have ha : a = ⟨"app", ["HelloController"], [], [], []⟩ := by
    obtain rfl := RendererKind.stimulus.inj hkind
    decide +kernel
  have hdropped :
      a.handles "\u00a0import HelloController from 'HelloController';\u2003" = true := by
    rw [← htrim, ha]
    decide +kernel
  let text := "\u2028\n\u00a0import HelloController from 'HelloController';\u2003\n" ++
    "\u3000 run(); \n\n stop();\u2029\nconst app = Application.start();\u2007"
  obtain ⟨htext, -, hagain⟩ := hprocess text
  have hleft : trim (joinLines ((lines text).filter (!a.handles ·))) = "run(); \n\n stop();" := by
    rw [ha]
    decide +kernel
  rw [htext, hleft] at hagain
  exact ⟨a, _, hr, hkind, hdropped, htext.trans hleft, hagain⟩

end Renderer

end ModuleScript
