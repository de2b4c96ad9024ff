import FunctionIndex.Shell.Utility.Calendar
import FunctionIndex.Shell.Utility.Checksum
import FunctionIndex.Shell.Utility.Column
import FunctionIndex.Shell.Utility.Copy
import FunctionIndex.Shell.Utility.Count
import FunctionIndex.Shell.Utility.Diff
import FunctionIndex.Shell.Utility.Divide
import FunctionIndex.Shell.Utility.Dump
import FunctionIndex.Shell.Utility.Encoding
import FunctionIndex.Shell.Utility.File
import FunctionIndex.Shell.Utility.Grep
import FunctionIndex.Shell.Utility.Identity
import FunctionIndex.Shell.Utility.Listing
import FunctionIndex.Shell.Utility.Number
import FunctionIndex.Shell.Utility.Paragraph
import FunctionIndex.Shell.Utility.Predicate
import FunctionIndex.Shell.Utility.Quantity
import FunctionIndex.Shell.Utility.Section
import FunctionIndex.Shell.Utility.Sed
import FunctionIndex.Shell.Utility.Shuffle
import FunctionIndex.Shell.Utility.Sort
import FunctionIndex.Shell.Utility.Stream
import FunctionIndex.Shell.Utility.Template
import FunctionIndex.Shell.Utility.Wrap

/-!
# The table of utilities

The utilities that read and write without starting other programs.
-/

namespace FunctionIndex

namespace Shell

namespace Utility

open Json (octet)
open Work

/-- Lists directories with some options that others may follow. -/
def shapedListing (options : List String) (c : Call) : Reply :=
  ls { c with args := options.map Utf8.encode ++ c.args }

/-- The utilities by name. -/
def table : List (String × (Call → Reply)) :=
  [("[", test true), ("arch", arch), ("b2sum", hashing "blake2b"), ("base32", encoded .base32), ("base64", encoded .base64),
    ("basename", basename), ("basenc", basenc), ("cat", cat), ("chgrp", chown), ("chmod", chmod), ("chown", chown),
    ("cksum", cksum), ("cmp", cmp), ("comm", comm), ("cp", cp), ("csplit", csplit), ("cut", cut), ("date", date), ("dd", dd),
    ("diff", diff), ("dir", shapedListing ["-C", "-b"]), ("dirname", dirname), ("du", du), ("echo", echo), ("egrep", grep 'E'), ("expand", expand),
    ("expr", expr), ("factor", factor), ("false", failing), ("fgrep", grep 'F'), ("fmt", fmt),
    ("fold", fold), ("grep", grep 'G'), ("groups", groupNames), ("head", head), ("id", identity),
    ("install", install), ("join", join), ("link", link), ("ln", ln), ("logname", logname),
    ("ls", ls), ("md5sum", hashing "md5"), ("mkdir", mkdir), ("mkfifo", mkfifo),
    ("mktemp", mktemp), ("mv", mv), ("nl", nl), ("nproc", nproc), ("numfmt", numfmt), ("od", od), ("paste", paste),
    ("pathchk", pathchk), ("printenv", printenv), ("printf", printf), ("pwd", pwd),
    ("readlink", readlink), ("realpath", realpath), ("rev", rev), ("rm", rm), ("rmdir", rmdir),
    ("sdiff", sdiff), ("sed", sed), ("seq", seq), ("sha1sum", hashing "sha1"), ("sha224sum", hashing "sha224"),
    ("sha256sum", hashing "sha256"), ("sha384sum", hashing "sha384"),
    ("sha512sum", hashing "sha512"), ("shuf", shuf), ("sleep", sleep), ("sort", sort), ("split", split),
    ("stat", stat), ("sum", sum), ("sync", sync), ("tac", tac), ("tail", tail), ("tee", tee),
    ("test", test false), ("touch", touch), ("tr", tr), ("true", succeed),
    ("truncate", truncate), ("tsort", tsort), ("tty", tty), ("uname", uname),
    ("unexpand", unexpand), ("uniq", uniq), ("unlink", unlink), ("users", users),
    ("vdir", shapedListing ["-l", "-b"]), ("wc", wc), ("who", who), ("whoami", whoami),
    ("yes", yes)]

/-- The utility of a name. -/
def find? (name : String) : Option (Call → Reply) :=
  (table.find? fun u => u.1 == name).map Prod.snd

end Utility

end Shell

end FunctionIndex
