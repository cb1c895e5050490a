import DiagramStudio.Script.Bytes
import DiagramStudio.Script.Checksum
import DiagramStudio.Script.Condition
import DiagramStudio.Script.Diff
import DiagramStudio.Script.Editing
import DiagramStudio.Script.Listing
import DiagramStudio.Script.Making
import DiagramStudio.Script.Format
import DiagramStudio.Script.Joining
import DiagramStudio.Script.Search
import DiagramStudio.Script.Sorting
import DiagramStudio.Script.Splitting
import DiagramStudio.Script.TextTool
import DiagramStudio.Text.Base64

/-!
The programs that scripts can call, by their names.
-/

namespace DiagramStudio.Script

/-- The words of a call, with blanks between them. Escapes are resolved only if that is asked for. -/
def echoed (c : Call) : Done :=
  let isOption (w : List Char) : Bool :=
    match w with
    | '-' :: c :: rest => (c :: rest).all fun d => d == 'n' || d == 'e' || d == 'E'
    | _ => false
  let given := c.args.takeWhile isOption
  let text := [' '].intercalate (c.args.drop given.length)
  let letters := given.flatten
  let resolves := letters.contains 'e' && (letters.reverse.find? fun d => d == 'e' || d == 'E') == some 'e'
  let (text, stop) := if resolves then unescape (text.length + 1) text else (text, false)
  c.wrote (if letters.contains 'n' || stop then text else text ++ ['\n'])

/-- Arguments in a format, as the program does it that is not part of the shell. -/
def printed (c : Call) : Done :=
  match c.args with
  | [] => c.missing "printf" "missing operand" 1
  | template :: rest =>
    let p := Printed.ofFormat template rest
    let d := p.complaints.foldl (fun d what => Done.complain d 1 ("printf: " ++ told what)) (c.done 0)
    { d with out := p.out }

/-- What a condition says, as the program does it that is not part of the shell. -/
def tested (tool : String) (c : Call) : Done :=
  let fail (what : String) : Done := (c.done 2).complain 2 (told c.name ++ ": " ++ what)
  if tool = "[" && c.args.getLast? != some [']'] then fail "missing ']'"
  else
    let words := if tool = "[" then c.args.dropLast else c.args
    match Condition.holds c.disk .lenient words with
    | .ok b => c.done (if b then 0 else 1)
    | .error what => fail (told what)

/-- A text in printable characters, or back. -/
def base64 (c : Call) : Done :=
  c.with "base64" 1 "di" "w" [("decode", 'd'), ("wrap", 'w')] fun o =>
    let (text, d) := c.whole 1 (fileComplaint "base64") o.operands
    if d.status != 0 then d
    else if o.has 'd' then
      let signs := text.filter (· != '\n')
      let bare := (signs.reverse.dropWhile (· == '=')).reverse
      match Text.Base64.decode? .standard signs with
      | some bytes => d.write (charsOf bytes)
      | none =>
        let clean := bare.takeWhile fun c => (Text.Base64.value? .standard c).isSome
        let found := (Text.Base64.ofSextets? (clean.filterMap (Text.Base64.value? .standard))).getD []
        (d.write (charsOf found)).complain 1 "base64: invalid input"
    else
      let width := ((o.value? 'w').bind TextTool.natural?).getD 76
      let signs := Text.Base64.encode .standard (bytesOf text)
      if width = 0 then d.write signs
      else if signs.isEmpty then d
      else d.write (ofRows (TextTool.folded width signs.length signs))

/-- Lines that were not asked to end, as many as anyone could want. -/
def endless (c : Call) : Done :=
  let text := if c.args.isEmpty then ['y'] else [' '].intercalate c.args
  c.wrote (List.replicate (2 ^ 20 / (text.length + 1) + 1) (text ++ ['\n'])).flatten

/-- What is bound to the input, which is never a terminal. -/
def tty (c : Call) : Done :=
  let d := c.done 1
  if c.args.any fun arg => arg = "-s".toList ∨ arg = "--quiet".toList then d
  else d.write "not a tty\n".toList

/-- The words of a call that asks for a date, of which one may name a form by letters behind its own. -/
def dateWords (args : List (List Char)) : List (List Char) :=
  args.map fun word =>
    match word with
    | '-' :: 'I' :: form => "--iso-8601=".toList ++ form
    | _ => word

/-- The format of a date in a form of its own. -/
def dateFormat? (o : Options) : Option String :=
  let precise (separator : String) (form : List Char) : String :=
    match String.ofList form with
    | "hours" => "%Y-%m-%d" ++ separator ++ "%H%:z"
    | "minutes" => "%Y-%m-%d" ++ separator ++ "%H:%M%:z"
    | "seconds" => "%Y-%m-%d" ++ separator ++ "%H:%M:%S%:z"
    | "ns" => "%Y-%m-%d" ++ separator ++ "%H:%M:%S,%N%:z"
    | _ => "%Y-%m-%d"
  if o.has 'R' then some "%a, %d %b %Y %H:%M:%S %z"
  else
    match o.value? 'I', o.value? '3' with
    | some form, _ => some (precise "T" form)
    | none, some form => some (precise " " form)
    | none, none => none

/-- A date, in a format. -/
def date (c : Call) : Done :=
  let long : Options.LongNames :=
    [("date", 'd'), ("reference", 'r'), ("utc", 'u'), ("universal", 'u'), ("iso-8601", 'I'), ("rfc-3339", '3'),
      ("rfc-email", 'R'), ("file", 'f'), ("set", 's'), ("debug", 'D')]
  Call.with { c with args := dateWords c.args } "date" 1 "uR" "drfs" long fun o =>
    let fail (what : String) : Done := (c.done 1).complain 1 ("date: " ++ what)
    let (formats, others) := o.operands.partition fun word => word.head? = some '+'
    let format : List Char := match formats with
      | word :: _ => word.tail
      | [] => ((dateFormat? o).getD "%a %b %e %H:%M:%S %Z %Y").toList
    let row (time : Int) : List Char := Calendar.format time (format.length + 1) format ++ ['\n']
    match others, o.value? 's' with
    | word :: _, _ =>
      if 1 < o.operands.length then c.missing "date" ("extra operand " ++ quoted (o.operands.getD 1 [])) 1
      else if word.all Char.isDigit && word.length = 8 then fail "cannot set date: Operation not permitted"
      else fail ("invalid date " ++ quoted word)
    | [], some _ => fail "cannot set date: Operation not permitted"
    | [], none =>
      match o.value? 'd', o.value? 'r', o.value? 'f' with
      | some text, _, _ =>
        match Calendar.read? c.disk.now text with
        | some time => c.wrote (row time)
        | none => fail ("invalid date " ++ quoted text)
      | none, some path, _ =>
        match c.disk.locate (pathOf path) with
        | .ok place => c.wrote (row (((c.disk.nodeAt? place).map (·.changed)).getD 0))
        | .error fault => fail (told path ++ ": " ++ fault.text)
      | none, none, some path =>
        match c.held path with
        | (.ok text, input) =>
          (rows text).1.foldl (fun d line =>
            match Calendar.read? c.disk.now line with
            | some time => d.write (row time)
            | none => d.complain 1 ("date: invalid date " ++ quoted line)) { c.done 0 with input }
        | (.error fault, _) => fail (told path ++ ": " ++ fault.text)
      | none, none, none => c.wrote (row c.disk.now)

/-- The kind of system. -/
def uname (c : Call) : Done :=
  c.with "uname" 1 "asnrvmpio" "" [] fun o =>
    let parts := [('s', "Linux"), ('m', "x86_64")].filter fun (letter, _) =>
      o.has letter || o.has 'a' || (o.given.isEmpty && letter == 's')
    c.wrote ([' '].intercalate (parts.map fun part => part.2.toList) ++ ['\n'])

/-- Who runs the program. -/
def id_ (c : Call) : Done :=
  c.with "id" 1 "agGnruzZ" "" [("user", 'u'), ("group", 'g'), ("name", 'n'), ("groups", 'G'), ("real", 'r')] fun o =>
    let whole := shown userNumber ++ '(' :: userName ++ [')']
    c.wrote (if !o.has 'u' && !o.has 'g' && !o.has 'G' then
        "uid=".toList ++ whole ++ " gid=".toList ++ whole ++ " groups=".toList ++ whole ++ ['\n']
      else if o.has 'n' then userName ++ ['\n']
      else shown userNumber ++ ['\n'])

/-- Programs that do nothing which could be seen. -/
def silent : List String := ["true", "sync"]

/-- The programs that deal with files, by their names. -/
def fileProgram? (name : String) : Option (Call → Done) :=
  match name with
  | "cat" => some FileTool.cat
  | "tee" => some FileTool.tee
  | "basename" => some FileTool.basename
  | "dirname" => some FileTool.dirname
  | "realpath" => some FileTool.realpath
  | "readlink" => some FileTool.readlink
  | "cmp" => some FileTool.cmp
  | "cp" => some Copying.cp
  | "mv" => some Copying.mv
  | "ln" => some Copying.ln
  | "link" => some Copying.link
  | "install" => some Copying.install
  | "rm" => some Making.rm
  | "unlink" => some Making.unlink
  | "mkdir" => some Making.mkdir
  | "rmdir" => some Making.rmdir
  | "touch" => some Making.touch
  | "mktemp" => some Making.mktemp
  | "mkfifo" => some Making.mkfifo
  | "chmod" => some Making.chmod
  | "chown" | "chgrp" => some (Making.chown name)
  | "ls" | "dir" => some Listing.ls
  | "stat" => some Listing.stat
  | "du" => some Listing.du
  | "od" => some Bytes.od
  | "dd" => some Bytes.dd
  | "truncate" => some Bytes.truncate
  | _ => none

/-- The programs that tell digests of one kind, and the names of the kinds. -/
def digestPrograms : List (String × String) :=
  [("md5sum", "md5"), ("sha1sum", "sha1"), ("sha224sum", "sha224"), ("sha256sum", "sha256"), ("sha384sum", "sha384"),
    ("sha512sum", "sha512"), ("b2sum", "blake2b")]

/-- The programs that deal with texts, by their names. -/
def textProgram? (name : String) : Option (Call → Done) :=
  match name with
  | "head" => some TextTool.head
  | "tail" => some TextTool.tail
  | "wc" => some TextTool.wc
  | "tr" => some TextTool.tr
  | "cut" => some TextTool.cut
  | "paste" => some TextTool.paste
  | "sort" => some Sorting.sort
  | "uniq" => some TextTool.uniq
  | "rev" => some TextTool.rev
  | "tac" => some TextTool.tac
  | "nl" => some TextTool.nl
  | "fold" => some TextTool.fold
  | "seq" => some TextTool.seq
  | "expr" => some TextTool.expr
  | "comm" => some TextTool.comm
  | "expand" => some TextTool.expand
  | "grep" => some (Search.grep false false)
  | "egrep" => some (Search.grep true false)
  | "fgrep" => some (Search.grep false true)
  | "sed" => some Editing.sed
  | "base64" => some base64
  | "diff" => some Diff.diff
  | "join" => some Joining.join
  | "split" => some Splitting.split
  | _ => none

/-- The programs that tell sums and digests, by their names. -/
def sumProgram? (name : String) : Option (Call → Done) :=
  match name with
  | "cksum" => some Checksum.cksum
  | "sum" => some Checksum.sum
  | _ => (digestPrograms.find? (·.1 == name)).map fun entry => Checksum.digestTool entry.1 entry.2

/-- A program called by its name; nothing if there is none of it. -/
def program? (name : String) : Option (Call → Done) :=
  if silent.contains name then some (·.done 0)
  else
    (fileProgram? name <|> textProgram? name <|> sumProgram? name) <|>
    match name with
    | "false" => some (·.done 1)
    | "echo" => some echoed
    | "printf" => some printed
    | "test" | "[" => some (tested name)
    | "yes" => some endless
    | "tty" => some tty
    | "id" => some id_
    | "whoami" => some (·.wrote (userName ++ ['\n']))
    | "logname" => some fun c => (c.done 1).complain 1 "logname: no login name"
    | "groups" => some (·.wrote (userName ++ ['\n']))
    | "arch" => some (·.wrote "x86_64\n".toList)
    | "nproc" => some (·.wrote "1\n".toList)
    | "hostname" => some (·.wrote "localhost\n".toList)
    | "date" => some date
    | "uname" => some uname
    | _ => none

/-- The names of programs that call others, take their time, or need to know about programs. -/
def callers : List String :=
  ["env", "sh", "dash", "xargs", "find", "pwd", "timeout", "nice", "nohup", "setsid", "stdbuf", "which",
    "printenv", "sleep", "awk", "mawk", "perl"]

/-- The names of all programs. -/
def programNames : List String :=
  callers ++ silent ++ digestPrograms.map (·.1) ++
  ["cat", "tee", "basename", "dirname", "realpath", "readlink", "cmp", "cp", "mv", "ln", "link", "install", "rm", "unlink",
    "mkdir", "rmdir", "touch", "mktemp", "mkfifo", "chmod", "chown", "chgrp", "ls", "dir", "stat", "du", "od", "dd",
    "truncate", "head", "tail", "wc", "tr", "cut", "paste", "sort", "uniq", "rev", "tac", "nl", "fold", "seq", "expr",
    "comm", "expand", "grep", "egrep", "fgrep", "sed", "base64", "diff", "join", "split", "cksum", "sum", "false", "echo", "printf", "test", "[", "yes", "tty",
    "id", "whoami", "logname", "groups", "arch", "nproc", "hostname", "date", "uname"]

/-- There is a program of the name. -/
def isProgram (name : String) : Bool := programNames.contains name

end DiagramStudio.Script
