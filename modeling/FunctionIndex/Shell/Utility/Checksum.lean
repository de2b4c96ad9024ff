import FunctionIndex.Shell.Digest.Blake
import FunctionIndex.Shell.Digest.Sm3
import FunctionIndex.Shell.Utility.Encoding
import FunctionIndex.Shell.Utility.Stream

/-!
# Utilities that write and check digests

A line holds a digest and the name of a file; such lines can be read back to see whether the files
still have these digests.
-/

namespace FunctionIndex

namespace Shell

namespace Utility

open Json (octet isDigit)
open Work

/-- A digest by name. -/
structure Hash where
  /-- Its name in lines that bear it. -/
  tag : String
  /-- The number of its octets. -/
  size : Nat
  /-- The digest of octets, so many octets long. -/
  digest : Nat → Bytes → String
  /-- Whether it can be shorter. -/
  adjustable : Bool := false

/-- The digests there are. -/
def Hash.all : List (String × Hash) :=
  [("md5", ⟨"MD5", 16, fun _ => Digest.md5, false⟩),
    ("sha1", ⟨"SHA1", 20, fun _ => Digest.sha1, false⟩),
    ("sha224", ⟨"SHA224", 28, fun _ => Digest.sha224, false⟩),
    ("sha256", ⟨"SHA256", 32, fun _ => Digest.sha256, false⟩),
    ("sha384", ⟨"SHA384", 48, fun _ => Digest.sha384, false⟩),
    ("sha512", ⟨"SHA512", 64, fun _ => Digest.sha512, false⟩),
    ("blake2b", ⟨"BLAKE2b", 64, Digest.blake2b, true⟩),
    ("sm3", ⟨"SM3", 32, fun _ => Digest.sm3, false⟩)]

/-- The digest made so many octets long, with the number of its bits in its name. -/
def Hash.resize (h : Hash) (size : Nat) : Hash :=
  if size = h.size then h else { h with size, tag := s!"{h.tag}-{8 * size}" }

/-- A name with its line ends and backslashes written by letters. -/
def escapedLineName (bs : Bytes) : Bytes :=
  bs.flatMap fun b =>
    if b == newline then Utf8.encode "\\n"
    else if b == 0x0D then Utf8.encode "\\r"
    else if b == octet '\\' then Utf8.encode "\\\\"
    else [b]

/-- A name with letters after backslashes read back. -/
def plainLineName : Bytes → Bytes
  | a :: b :: r =>
    if a == octet '\\' then
      let c := if b == octet 'n' then newline else if b == octet 'r' then 0x0D else b
      c :: plainLineName r
    else a :: plainLineName (b :: r)
  | bs => bs

/-- The line of a file. -/
def Hash.line (h : Hash) (tagged binary zero : Bool) (digest : String) (name : Bytes) : Bytes :=
  let shown := if zero then name else escapedLineName name
  let mark := if shown == name then [] else [octet '\\']
  let ending : UInt8 := if zero then 0 else newline
  if tagged then
    mark ++ Utf8.encode (h.tag ++ " (") ++ shown ++ Utf8.encode (") = " ++ digest) ++ [ending]
  else
    mark ++ Utf8.encode digest ++ [0x20, if binary then octet '*' else 0x20] ++ shown ++ [ending]

/-- The size, the digest and the name in a line. -/
def Hash.parse? (h : Hash) (line : Bytes) : Option (Nat × String × Bytes) :=
  let line := line.dropWhile isBlank
  let line := if line.getLast? == some 0x0D then line.dropLast else line
  let marked := line.head? == some (octet '\\')
  let line := if marked then line.tail else line
  let name (bs : Bytes) : Bytes := if marked then plainLineName bs else bs
  let tag := Utf8.encode h.tag
  if tag.isPrefixOf line then
    let r := line.drop tag.length
    let bits := if h.adjustable && r.head? == some (octet '-') then r.tail.takeWhile isDigit else []
    let size := if bits.isEmpty then h.size else Json.Numeral.natOf bits / 8
    let r := if bits.isEmpty then r else r.drop (bits.length + 1)
    let r := r.dropWhile (· == 0x20)
    let digest := r.drop (r.length - 2 * size)
    let ending := Utf8.encode ") = "
    let body := r.take (r.length - 2 * size)
    if r.head? == some (octet '(') && 0 < size && size ≤ h.size && digest.length == 2 * size &&
        digest.all isHex && ending.isSuffixOf body then
      some (size, asciiText (digest.map lower),
        name (body.tail.take (body.length - 1 - ending.length)))
    else none
  else
    let digest := line.takeWhile isHex
    let r := line.drop digest.length
    let size := digest.length / 2
    let fits := digest.length % 2 == 0 &&
      (size == h.size || (h.adjustable && 0 < size && size ≤ h.size))
    if !fits then none
    else
      match r with
      | a :: b :: n =>
        if !isBlank a || n.isEmpty then none
        else if b == 0x20 || b == octet '*' then some (size, asciiText (digest.map lower), name n)
        else some (size, asciiText (digest.map lower), name (b :: n))
      | _ => none

/-- What has been found while checking. -/
structure Checked where
  proper : Nat := 0
  improper : Nat := 0
  mismatched : Nat := 0
  unreadable : Nat := 0
  matched : Nat := 0

/-- One of a number, or several. -/
def plural (n : Nat) (one several : String) : String :=
  if n = 1 then s!"{n} {one}" else s!"{n} {several}"

/-- Checks a line. -/
def checkLine (c : Call) (g : Given) (h : Hash) (file : Bytes) (s : Checked) (line : Bytes × Nat) :
    Work Checked := do
  if line.1.head? == some (octet '#') then return s
  match h.parse? line.1 with
  | none =>
    if g.has 'w' then
      warn s!"{c.name}: {Quote.needed file}: {line.2 + 1}: improperly formatted {h.tag} checksum line"
    return { s with improper := s.improper + 1 }
  | some (size, digest, name) =>
    let s := { s with proper := s.proper + 1 }
    let shown := escapedLineName name
    let mark := if shown == name then [] else [octet '\\']
    let say (text : String) : Work Unit :=
      if g.has 'S' then pure () else write (mark ++ shown ++ Utf8.encode (": " ++ text) ++ [newline])
    let missing := match (← disk).stat ⟨name⟩ with
      | .error (.system .notFound) => g.has 'm' && name != [octet '-']
      | _ => false
    if missing then return s
    match ← readFile c name 1 with
    | none =>
      say "FAILED open or read"
      return { s with unreadable := s.unreadable + 1 }
    | some bs =>
      if h.digest size bs == digest then
        if !g.has 'q' then say "OK"
        return { s with matched := s.matched + 1 }
      else
        say "FAILED"
        return { s with mismatched := s.mismatched + 1 }

/-- Checks the lines of a file. -/
def checkFile (c : Call) (g : Given) (h : Hash) (file : Bytes) : Work Unit := do
  match ← readFile c file 1 with
  | none => pure ()
  | some bs =>
    let title := if file == [octet '-'] then "'standard input'" else Quote.needed file
    let name := if file == [octet '-'] then Utf8.encode "standard input" else file
    let s ← (linesOf bs).zipIdx.foldlM (checkLine c g h name) ({} : Checked)
    if s.proper = 0 then complain c s!"{title}: no properly formatted checksum lines found" 1
    else
      if !g.has 'S' then
        let tell (n : Nat) (one several : String) : Work Unit :=
          if n = 0 then pure () else warn s!"{c.name}: WARNING: {plural n one several}"
        tell s.improper "line is improperly formatted" "lines are improperly formatted"
        tell s.unreadable "listed file could not be read" "listed files could not be read"
        tell s.mismatched "computed checksum did NOT match" "computed checksums did NOT match"
      if g.has 'm' && s.matched = 0 && s.mismatched = 0 && s.unreadable = 0 then
        complain c s!"{title}: no file was verified" 1
      if s.mismatched > 0 || s.unreadable > 0 || (g.has 's' && s.improper > 0) then fail 1

/-- The options of utilities that write digests. -/
def hashOptions : Options where
  flags := "bctwz"
  wordy := "TsSqm"
  long := [("binary", 'b'), ("check", 'c'), ("text", 't'), ("tag", 'T'), ("zero", 'z'),
    ("warn", 'w'), ("strict", 's'), ("status", 'S'), ("quiet", 'q'), ("ignore-missing", 'm')]

/-- Writes the digests of files, or checks them. -/
def hashFiles (c : Call) (g : Given) (h : Hash) (tagged : Bool) : Work Unit := do
  let checking := g.has 'c'
  let only (letter : Char) (name : String) : Work Unit :=
    if g.has letter && !checking then
      misuse c s!"the --{name} option is meaningful only when verifying checksums" 1
    else pure ()
  if g.has 'T' && checking then
    misuse c "the --tag option is meaningless when verifying checksums" 1
  only 'm' "ignore-missing"
  only 'S' "status"
  only 'w' "warn"
  only 'q' "quiet"
  only 's' "strict"
  if g.has 'R' && g.operands.length > 1 then
    misuse c "the --raw option is not supported with multiple files" 1
  let octets (hex : String) : Bytes :=
    (chunks 2 (hex.length + 1) (Utf8.encode hex)).map fun p => (digitsValue 16 p).toUInt8
  (orInput g.operands).forM fun f => do
    if checking then checkFile c g h f
    else
      if let some bs ← readFile c f 1 then
        let digest := h.digest h.size bs
        if g.has 'R' then write (octets digest)
        else
          let shown := if g.has '6' then asciiText (Encoding.base64.encode (octets digest)) else digest
          write (h.line tagged (g.last? ['b', 't'] == some 'b') (g.has 'z') shown f)

/-- The digest made as long as an option asks for. -/
def hashOf (c : Call) (g : Given) (h : Hash) : Work Hash := do
  match g.value? 'l' with
  | none => return h
  | some v =>
    let bad : Work Unit := complain c s!"invalid length: {Quote.plain v}" 1
    match natural? v with
    | none => do
      bad
      stop
    | some n =>
      if n > 8 * h.size then do
        bad
        die c s!"maximum digest length for '{h.tag}' is {8 * h.size} bits" 1
      else if n % 8 != 0 then do
        bad
        die c "length is not a multiple of 8" 1
      else return if n = 0 || g.has 'c' then h else h.resize (n / 8)

/-- Writes the digests of files, or checks them. -/
def hashing (name : String) (c : Call) : Reply :=
  match Hash.all.find? fun h => h.1 == name with
  | none => reply c (fail 1)
  | some (_, h) =>
    let o := if h.adjustable then
        { hashOptions with valued := "l", long := hashOptions.long ++ [("length", 'l')] }
      else hashOptions
    withOptions c o 1 fun g => do hashFiles c g (← hashOf c g h) (g.has 'T')

/-- The line of a plain sum. -/
def sumLine (turned named : Bool) (bs name : Bytes) : Bytes :=
  let shown := if named then 0x20 :: name else []
  if turned then
    let sum := decimal (Digest.turnedSum bs)
    let blocks := decimal (((bs.length + 1023) / 1024 : Nat) : Int)
    List.replicate (5 - sum.length) (octet '0') ++ sum ++ 0x20 :: padLeft 5 blocks ++ shown ++ [newline]
  else
    decimal (Digest.foldedSum bs) ++ 0x20 :: decimal (((bs.length + 511) / 512 : Nat) : Int) ++ shown ++
      [newline]

/-- Writes plain sums. -/
def sum (c : Call) : Reply :=
  withOptions c { flags := "rs", long := [("sysv", 's')] } 1 fun g => do
    (orInput g.operands).forM fun f => do
      if let some bs ← readFile c f 1 then
        write (sumLine (g.last? ['r', 's'] != some 's') (!g.operands.isEmpty) bs f)

/-- The checksums that can be asked for. -/
def checksumNames : List String :=
  ["bsd", "sysv", "crc", "crc32b", "md5", "sha1", "sha224", "sha256", "sha384", "sha512", "blake2b", "sm3"]

/-- Writes checksums. -/
def cksum (c : Call) : Reply :=
  let o := { hashOptions with
    valued := "al", wordy := "TsSqmuR6D"
    flags := hashOptions.flags ++ "TuR6D"
    long := hashOptions.long ++ [("algorithm", 'a'), ("untagged", 'u'), ("length", 'l'),
      ("raw", 'R'), ("base64", '6'), ("debug", 'D')] }
  withOptions c o 1 fun g => do
    let name := ((g.value? 'a').map asciiText).getD "crc"
    if !checksumNames.contains name then
      let chosen := Quote.plain ((g.value? 'a').getD [])
      complain c s!"invalid argument {chosen} for '--algorithm'" 1
      warn "Valid arguments are:"
      checksumNames.forM fun n => warn s!"  - '{n}'"
      hint c
      stop
    if g.has 'l' && name != "blake2b" then
      misuse c "--length is only supported with --algorithm=blake2b" 1
    match Hash.all.find? fun h => h.1 == name with
    | some (_, h) => hashFiles c g (← hashOf c g h) (!g.has 'u')
    | none =>
      if g.has 'c' && !g.has 'a' then
        -- The digest is told by the tag of each line.
        (orInput g.operands).forM fun f => do
          if let some bs ← readFile c f 1 then
            let starts (h : Hash) (mark : String) : Bool :=
              (Utf8.encode (h.tag ++ mark)).isPrefixOf bs
            let h := Hash.all.find? fun h => starts h.2 " " || (h.2.adjustable && starts h.2 "-")
            match h with
            | some (_, h) =>
              let _ ← (linesOf bs).zipIdx.foldlM (checkLine c g h f) ({} : Checked)
            | none => complain c s!"{Quote.needed f}: no properly formatted checksum lines found" 1
      else
        (orInput g.operands).forM fun f => do
          if let some bs ← readFile c f 1 then
            let shown := if g.operands.isEmpty then [] else 0x20 :: f
            match name with
            | "bsd" => write (sumLine true (!g.operands.isEmpty) bs f)
            | "sysv" => write (sumLine false (!g.operands.isEmpty) bs f)
            | "crc32b" =>
              write (decimal (Digest.crcReversed bs) ++ 0x20 :: decimal bs.length ++ shown ++ [newline])
            | _ => write (decimal (Digest.crc bs) ++ 0x20 :: decimal bs.length ++ shown ++ [newline])

end Utility

end Shell

end FunctionIndex
