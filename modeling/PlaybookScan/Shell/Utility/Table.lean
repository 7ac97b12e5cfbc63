import PlaybookScan.Shell.Utility.Awk
import PlaybookScan.Shell.Utility.Blocks
import PlaybookScan.Shell.Utility.Calendar
import PlaybookScan.Shell.Utility.Characters
import PlaybookScan.Shell.Utility.Checksum
import PlaybookScan.Shell.Utility.Chunks
import PlaybookScan.Shell.Utility.Columns
import PlaybookScan.Shell.Utility.Difference
import PlaybookScan.Shell.Utility.Dump
import PlaybookScan.Shell.Utility.Editor
import PlaybookScan.Shell.Utility.Encoding
import PlaybookScan.Shell.Utility.Expression
import PlaybookScan.Shell.Utility.Find
import PlaybookScan.Shell.Utility.Identity
import PlaybookScan.Shell.Utility.Listing
import PlaybookScan.Shell.Utility.Order
import PlaybookScan.Shell.Utility.Pairing
import PlaybookScan.Shell.Utility.PathName
import PlaybookScan.Shell.Utility.Search
import PlaybookScan.Shell.Utility.Sequence
import PlaybookScan.Shell.Utility.Transliteration

/-!
# Table of the system's programs
-/

set_option autoImplicit false

namespace PlaybookScan.Shell.Utility

/-- The programs that need no others. -/
def table : List (String × Utility) :=
  [("true", trueUtility), ("false", falseUtility), ("echo", echo), ("printf", printf), ("cat", cat),
    ("head", head), ("tail", tail), ("tac", tac), ("tee", tee), ("wc", wc), ("seq", seq),
    ("factor", factor), ("sleep", sleep), ("yes", yes), ("tr", tr), ("cut", cut), ("rev", rev),
    ("fold", fold), ("expand", expand), ("unexpand", unexpand), ("nl", nl), ("paste", paste),
    ("od", od), ("sort", sort), ("shuf", shuf), ("tsort", tsort), ("uniq", uniq), ("comm", comm),
    ("join", join), ("cmp", cmp), ("diff", diff), ("grep", grep none), ("egrep", grep (some 'E')),
    ("fgrep", grep (some 'F')), ("expr", expr), ("rm", rm), ("rmdir", rmdir), ("mkdir", mkdir),
    ("touch", touch), ("mktemp", mktemp), ("cp", cp), ("mv", mv), ("ln", ln), ("link", link),
    ("unlink", unlink), ("sync", sync), ("chmod", chmod), ("stat", stat), ("truncate", truncate),
    ("split", split), ("basename", basename), ("dirname", dirname), ("pwd", pwd),
    ("readlink", readlink), ("realpath", realpath), ("ls", ls), ("dd", dd), ("date", date),
    ("base64", base64), ("base32", base32), ("basenc", basenc), ("cksum", cksum), ("sum", sum),
    ("printenv", printenv), ("which", which), ("uname", uname), ("arch", saying "x86_64"),
    ("id", identity), ("whoami", saying "root"), ("groups", groups), ("logname", logname),
    ("tty", tty), ("nproc", nproc), ("users", nobody), ("who", nobody), ("hostname", hostname)] ++
    digests.map fun (name, d) => (name, digest d)

/-- The program that the system provides under a name, if it needs no others. -/
def named? (name : String) : Option Utility := table.lookup name

/-- The programs that may have others run. -/
def hosted : List (String × (Host → Utility)) := 
  [("find", find), ("sed", sed), ("awk", awk), ("mawk", awk), ("nawk", awk)]

/-- Programs that run others, and those that are shells. -/
def others : List String :=
  ["test", "[", "env", "timeout", "xargs", "nohup", "nice", "setsid", "stdbuf", "ionice", "flock",
    "taskset", "kill", "sh", "dash"]

/-- The names of the system's programs. -/
def names : List String := table.map Prod.fst ++ hosted.map Prod.fst ++ others

end PlaybookScan.Shell.Utility
