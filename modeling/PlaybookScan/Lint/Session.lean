import PlaybookScan.Lint.Analysis

/-!
# Sessions

A session is a sequence of steps on one context: settings and files change, issues and findings are
saved, and analyses run, each with a runner whose replies are prepared.
-/

set_option autoImplicit false

namespace PlaybookScan

/-- Replies to come, each as a function of the command line, and the command lines so far. -/
structure Prepared where
  replies : List (List String → Reply)
  calls : List (List String)

namespace Prepared

def ofReplies (replies : List (List String → Reply)) : Prepared := ⟨replies, []⟩

/-- Answers the calls in order, and with an empty output when no reply is left. -/
def runner : Runner Prepared where
  run argv s :=
    match s.replies with
    | [] => (⟨.ok ⟨[], [], 0⟩, []⟩, { s with calls := s.calls ++ [argv] })
    | reply :: replies => (reply argv, ⟨replies, s.calls ++ [argv]⟩)

end Prepared

namespace Session

inductive Step where
  | set (key value : String)
  | addFile (file : InputFile)
  /-- Saves an issue without looking at the rules. -/
  | save (rule : RuleKey) (file : InputFile) (line : UInt32) (message : Option String)
  | saveFinding (file : InputFile) (finding : Finding)
  | execute (extraArgs : List String) (replies : List (List String → Reply))

inductive Answer where
  | done
  | saved (accepted : Bool)
  | rejected (error : HostError)
  | report (report : Report) (calls : List (List String))

/-- Takes one step. -/
def step (profile : Profile) (cwd : WorkingDir) (c : Context) : Step → Logged (Answer × Context)
  | .set key value => return (.done, c.set key value)
  | .addFile file => return (.done, c.addFile file)
  | .save rule file line message =>
    match Issue.create rule file line with
    | .ok issue => return (.saved true, c.save (issue.withMessage message))
    | .error e => return (.rejected e, c)
  | .saveFinding file finding => do
    let (accepted, c) ← Analysis.saveFinding c file finding
    return (.saved accepted, c)
  | .execute extraArgs replies => do
    let (outcome, prepared) :=
      Analysis.execute Prepared.runner profile extraArgs cwd c (.ofReplies replies)
    let (report, c) ← outcome
    return (.report report prepared.calls, c)

end Session

end PlaybookScan
