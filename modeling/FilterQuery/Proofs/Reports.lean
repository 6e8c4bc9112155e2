import Mathlib.Data.List.Chain
import FilterQuery.CommandLine.Run
import FilterQuery.Proofs.Statement

/-!
# Reports of failures

A report of a failure and the lines of a log go to the same stream, and a reader tells them apart by
the beginning of a line.  A report repeats text that comes from outside, but indented, so no line of
it begins like a log line (`CommandLine.Failure.not_showsDebugLine_report`).  The exception is the
path of a file that cannot be read, which is repeated as it is.
-/

namespace FilterQuery

lemma SyntaxError.newline_notMem_message (error : SyntaxError) :
    '\n' ∉ error.message.toList := by
  have hflaw : '\n' ∉ error.flaw.message.toList := by
    cases error.flaw <;> decide +kernel
  have hnumber : ∀ n : Nat, '\n' ∉ (toString n).toList := notMem_toString (by decide)
  simp only [message, String.toList_append, List.mem_append, not_or]
  exact ⟨⟨⟨⟨hflaw, by decide⟩, hnumber _⟩, by decide⟩, hnumber _⟩

namespace CommandLine

/-- Does a line of the text begin as the lines of the log do that have the level `DEBUG`? -/
def ShowsDebugLine (text : String) : Prop :=
  "DEBUG".toList <+: text.toList ∨ ('\n' :: "DEBUG".toList) <:+: text.toList

/-- No line but the first begins with a `D`. -/
def Calm (cs : List Char) : Prop :=
  cs.IsChain fun c next => c = '\n' → next ≠ 'D'

lemma calm_of_notMem {cs : List Char} (h : '\n' ∉ cs) : Calm cs := by
  refine List.Pairwise.isChain (List.pairwise_of_forall_mem_list fun c hc _ _ hnewline => ?_)
  exact absurd (hnewline ▸ hc) h

/-- What is put together does not begin a line with a `D` unless the second part does. -/
lemma Calm.append {front back : List Char} (hfront : Calm front) (hback : Calm back)
    (hnext : front.getLast? ≠ some '\n' ∨ back.head? ≠ some 'D') : Calm (front ++ back) := by
  refine List.isChain_append.mpr ⟨hfront, hback, ?_⟩
  rintro c hc next hnext' rfl rfl
  exact hnext.elim (· hc) (· hnext')

lemma not_showsDebugLine_of_calm {text : String} (hcalm : Calm text.toList)
    (hhead : text.toList.head? ≠ some 'D') : ¬ ShowsDebugLine text := by
  rintro (hfirst | hlater)
  · obtain ⟨rest, hrest⟩ := hfirst
    exact hhead (by rw [← hrest]; rfl)
  · have hchain := List.IsChain.infix hcalm hlater
    simp at hchain

namespace Failure

/-- An indented message is calm, whatever lines it has. -/
lemma calm_indent (message : String) : Calm (indent message).toList := by
  have hstep : ∀ cs : List Char,
      Calm (cs.flatMap fun c => if c = '\n' then c :: indentation else [c]) := by
    intro cs
    induction cs with
    | nil => exact List.isChain_nil
    | cons c rest ih =>
        rw [List.flatMap_cons]
        refine Calm.append ?_ ih (.inl ?_)
        · split <;> simp [Calm, indentation, List.replicate]
        · split <;> simp_all [indentation, List.replicate]
  rw [indent, String.toList_ofList]
  exact Calm.append (by simp [Calm, indentation, List.replicate]) (hstep _)
    (.inl (by simp [indentation, List.replicate]))

/-- The lines for some causes are indented, and calm if several causes have a line each. -/
lemma calm_of_mem_causeLines {causes : List String}
    (hcauses : 1 < causes.length → ∀ cause ∈ causes, '\n' ∉ cause.toList) :
    ∀ line ∈ causeLines causes, Calm line.toList ∧ line.toList.head? = some ' ' := by
  fun_cases causeLines causes with
  | case1 cause =>
      rw [List.forall_mem_singleton]
      exact ⟨calm_indent cause, by simp [indent, indentation, List.replicate]⟩
  | case2 _ hseveral =>
      intro line hline
      obtain ⟨i, hi, rfl⟩ := List.mem_mapIdx.mp hline
      have hlength : 1 < causes.length := by
        obtain _ | ⟨cause, _ | ⟨next, rest⟩⟩ := causes
        · simp at hi
        · exact absurd rfl (hseveral cause)
        · simp
      have hcause := hcauses hlength _ (List.getElem_mem hi)
      have hnumber : '\n' ∉ (toString i).toList := notMem_toString (by decide) i
      refine ⟨calm_of_notMem ?_, by simp⟩
      simp only [String.toList_append, List.mem_append, not_or]
      exact ⟨⟨⟨by decide, hnumber⟩, by decide⟩, hcause⟩

lemma calm_join_lines {lines : List String}
    (hlines : ∀ line ∈ lines, Calm line.toList ∧ line.toList.head? = some ' ') :
    Calm (String.join (lines.map (· ++ "\n"))).toList ∧
      (String.join (lines.map (· ++ "\n"))).toList.head? ≠ some 'D' := by
  induction lines with
  | nil => simp [Calm]
  | cons line rest ih =>
      obtain ⟨⟨hcalm, hhead⟩, hrest⟩ := List.forall_mem_cons.mp hlines
      obtain ⟨hcalms, hheads⟩ := ih hrest
      have hbreak : Calm "\n".toList := List.isChain_singleton _
      rw [List.map_cons, String.join_cons, String.toList_append, String.toList_append]
      refine ⟨Calm.append (hcalm.append hbreak (.inr (by decide))) hcalms (.inr hheads), ?_⟩
      simp [List.head?_append, hhead]

/-- Several causes are never in want of indentation: none of them has more than one line. -/
lemma newline_notMem_of_mem_causes {failure : Failure} (hseveral : 1 < failure.causes.length) :
    ∀ cause ∈ failure.causes, '\n' ∉ cause.toList := by
  cases failure with
  | unreadable path fault => simp [causes] at hseveral
  | refused context error =>
      cases error with
      | malformed error =>
          have hmessage := error.newline_notMem_message
          have hfirst : '\n' ∉ ("JSON error: " ++ error.message).toList := by
            rw [String.toList_append, List.mem_append, not_or]
            exact ⟨by decide, hmessage⟩
          exact List.forall_mem_cons.mpr ⟨hfirst, List.forall_mem_singleton.mpr hmessage⟩
      | _ => simp [causes, Refusal.causes] at hseveral

/-- **No line of a report begins like a line of the log**, unless the path of a file has a line
break. -/
lemma not_showsDebugLine_report {failure : Failure} (hcontext : '\n' ∉ failure.context.toList) :
    ¬ ShowsDebugLine failure.report := by
  have hcauses : 1 < failure.causes.length → ∀ cause ∈ failure.causes, '\n' ∉ cause.toList :=
    newline_notMem_of_mem_causes
  obtain ⟨hcalm, hhead⟩ := calm_join_lines (calm_of_mem_causeLines hcauses)
  refine not_showsDebugLine_of_calm ?_ (by simp [report])
  have herror : Calm "Error: ".toList := calm_of_notMem (by decide)
  have hheader : Calm "\n\nCaused by:\n".toList := by simp [Calm]
  simp only [report, String.toList_append]
  refine Calm.append (Calm.append (Calm.append herror (calm_of_notMem hcontext) ?_) hheader ?_)
    hcalm (.inr hhead)
  · exact .inl (by decide)
  · exact .inr (by decide)

end Failure

end CommandLine

end FilterQuery
