/-
**Programs that a shell starts.**

* `programs`: the programs by name.
-/

import Workyard.Shell.Program.Calculation
import Workyard.Shell.Program.Characters
import Workyard.Shell.Program.Coding
import Workyard.Shell.Program.Copy
import Workyard.Shell.Program.Creation
import Workyard.Shell.Program.Difference
import Workyard.Shell.Program.Edit
import Workyard.Shell.Program.Grep
import Workyard.Shell.Program.Launch
import Workyard.Shell.Program.Lines
import Workyard.Shell.Program.Listing
import Workyard.Shell.Program.Plain
import Workyard.Shell.Program.Progression
import Workyard.Shell.Program.Question
import Workyard.Shell.Program.Search
import Workyard.Shell.Program.Transfer

namespace Workyard.Shell

open Program

/-- The microseconds that starting a program takes. -/
def startTime : Nat := 1000

/-- The programs that start no others, by name. -/
def plainPrograms : List (String × (Call → Act Nat)) :=
  [("sleep", sleep), ("true", succeed), ("false", fail), ("echo", Program.echo),
    ("printf", Program.printf), ("yes", yes), ("basename", basename), ("dirname", dirname),
    ("pwd", Program.pwd), ("printenv", printenv), ("whoami", saying (octets "root")), ("id", whoIs),
    ("groups", saying (octets "root")), ("hostname", saying (octets "localhost")),
    ("arch", saying (octets "x86_64")), ("nproc", saying ['4']), ("uname", uname), ("tty", tty),
    ("sync", succeed), ("cat", cat), ("tac", tac), ("tee", tee), ("head", head), ("tail", tail), ("tr", tr),
    ("cut", cut), ("rev", rev), ("fold", fold), ("expand", expand), ("sort", Program.sort),
    ("uniq", uniq), ("wc", wc), ("nl", nl), ("paste", paste), ("comm", comm),
    ("grep", grep), ("egrep", egrep), ("fgrep", fgrep), ("rgrep", rgrep), ("sed", sed), ("expr", expr), ("factor", factor), ("seq", seq), ("date", date),
    ("mkdir", mkdir), ("mkfifo", mkfifo), ("mktemp", mktemp), ("touch", touch), ("truncate", truncate),
    ("ln", ln), ("link", link), ("chmod", chmod),
    ("unlink", unlink), ("rmdir", rmdir), ("rm", rm), ("mv", mv), ("cp", cp),
    ("ls", ls), ("dir", dir), ("vdir", vdir), ("stat", stat), ("readlink", readlink),
    ("realpath", realpath), ("which.debianutils", which), ("cmp", cmp), ("diff", diff), ("od", od),
    ("base64", spell letters64), ("base32", spell letters32), ("cksum", cksum), ("sum", Program.sum)] ++
  digestKinds.map fun (name, kind) => (name, digestSum kind)

/-- The programs by name. -/
def programs : List (String × (Launcher → Call → Act Nat)) :=
  [("env", env), ("timeout", timeout), ("nohup", nohup), ("nice", nice), ("setsid", setsid),
    ("stdbuf", stdbuf), ("xargs", xargs), ("find", find)] ++ plainPrograms.map fun entry => (entry.1, fun _ => entry.2)

end Workyard.Shell
