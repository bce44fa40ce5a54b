import EnvProfiles.Tool.Blocks
import EnvProfiles.Tool.Compare
import EnvProfiles.Tool.Dump
import EnvProfiles.Tool.Layout
import EnvProfiles.Tool.LineEditor
import EnvProfiles.Tool.Reckon
import EnvProfiles.Tool.Search
import EnvProfiles.Tool.System

/-!
# Programs of the Machine

The programs of the machine that start no others, by their names. Each of them
turns a job at its start into that job at its end.

## Main definitions

* `Tool.table`: The programs and what they do.
-/

namespace EnvProfiles.Tool

/-- The programs that start no others, and what they do. -/
def table : List (String × (Job → Job)) :=
  [("[", bracket), ("arch", plainAnswer "x86_64"), ("base32", base32), ("base64", base64),
    ("basenc", basenc), ("basename", basename), ("cat", cat), ("chmod", chmod), ("cksum", cksum),
    ("cmp", cmp), ("comm", comm), ("cp", cp), ("cut", cut), ("date", date), ("dd", dd),
    ("diff", diff), ("dir", ls), ("dirname", dirname), ("echo", echo),
    ("egrep", grepWith (some "E")), ("expand", expand), ("expr", expr), ("factor", factor),
    ("false", refuseAll), ("fgrep", grepWith (some "F")), ("fold", fold), ("grep", grep),
    ("groups", groupsOf), ("head", head), ("hostname", hostname), ("id", identity),
    ("install", install), ("join", join), ("ln", ln), ("logname", logname), ("ls", ls),
    ("mkdir", mkdir), ("mktemp", mktemp), ("mv", mv), ("nl", nl), ("nproc", nproc), ("od", od),
    ("paste", paste), ("printenv", printenv), ("printf", printf), ("pwd", pwd),
    ("readlink", readlink), ("realpath", realpath), ("rev", rev), ("rm", rm), ("rmdir", rmdir),
    ("sed", sed), ("seq", seq), ("shuf", shuf), ("sleep", sleep), ("sort", sort),
    ("split", split), ("stat", stat), ("sum", sum), ("sync", succeed), ("tac", tac),
    ("tail", tail), ("tee", tee), ("test", test), ("touch", touch), ("tr", tr), ("true", succeed),
    ("truncate", truncate), ("tsort", tsort), ("tty", tty), ("uname", uname),
    ("unexpand", unexpand), ("uniq", uniq), ("unlink", unlink), ("wc", wc), ("which", which),
    ("whoami", whoami), ("yes", yes)] ++
  Digest.table.map fun (name, make) => (name, digest make)

end EnvProfiles.Tool
