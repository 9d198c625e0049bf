namespace WaitingList.IpAddress

/-- The value of a hexadecimal digit, in either case. -/
def hexValue? (c : Char) : Option Nat :=
  if c.isDigit then some (c.toNat - 0x30)
  else if 'a' ≤ c ∧ c ≤ 'f' then some (c.toNat - 0x57)
  else if 'A' ≤ c ∧ c ≤ 'F' then some (c.toNat - 0x37)
  else none

/-- The number that decimal digits write. -/
def decimalValue (digits : List Char) : Nat :=
  digits.foldl (fun n c => n * 10 + (c.toNat - 0x30)) 0

/-- One number of a version 4 address, at most 255 and without a needless zero in front. -/
def octet? (digits : List Char) : Option Nat :=
  if digits.isEmpty || !digits.all Char.isDigit || digits.length > 3 then none
  else if digits.length > 1 && digits.head? = some '0' then none
  else if decimalValue digits ≤ 255 then some (decimalValue digits)
  else none

/-- The four numbers of a version 4 address. -/
def version4? (text : List Char) : Option (List Nat) :=
  let numbers := text.splitOn '.'
  if numbers.length = 4 then numbers.mapM octet? else none

/-- One group of a version 6 address, of one to four digits. -/
def group? (digits : List Char) : Option Nat :=
  if digits.isEmpty || digits.length > 4 then none
  else (digits.mapM hexValue?).map (·.foldl (fun n d => n * 16 + d) 0)

/-- The groups that parts between colons write. The last part may be a version 4 address, which
makes two groups. -/
def groupsOfParts? (embeds : Bool) : List (List Char) → Option (List Nat)
  | [] => some []
  | [last] =>
    match group? last with
    | some n => some [n]
    | none =>
      match if embeds then version4? last else none with
      | some [a, b, c, d] => some [a * 256 + b, c * 256 + d]
      | _ => none
  | part :: rest => do
    let n ← group? part
    let more ← groupsOfParts? embeds rest
    some (n :: more)

/-- The groups of a text that leaves no run out. Nothing at all is no group. -/
def groups? (embeds : Bool) (text : List Char) : Option (List Nat) :=
  if text.isEmpty then some [] else groupsOfParts? embeds (text.splitOn ':')

/-- What stands before and after the first double colon. -/
def splitAtGap : List Char → Option (List Char × List Char)
  | ':' :: ':' :: rest => some ([], rest)
  | c :: rest => (splitAtGap rest).map fun (before, after) => (c :: before, after)
  | [] => none

/-- The eight groups of a version 6 address. A double colon stands for one zero group or more. -/
def version6? (text : List Char) : Option (List Nat) :=
  match splitAtGap text with
  | none =>
    match groups? true text with
    | some groups => if groups.length = 8 then some groups else none
    | none => none
  | some (before, after) =>
    match groups? false before, groups? true after with
    | some head, some tail =>
      if head.length + tail.length ≤ 7 then
        some (head ++ List.replicate (8 - head.length - tail.length) 0 ++ tail)
      else none
    | _, _ => none

/-- Whether a text is an address of either version. -/
def isAddress (text : List Char) : Bool := (version4? text).isSome || (version6? text).isSome

/-- The length of the run of zeros that groups begin with. -/
def zeroRun (groups : List Nat) : Nat := (groups.takeWhile (· == 0)).length

/-- Where the longest run of zeros begins, and how long it is; the first of the longest. -/
def longestZeroRun (groups : List Nat) : Nat × Nat :=
  (List.range groups.length).foldl
    (fun best start =>
      let length := zeroRun (groups.drop start)
      if best.2 < length then (start, length) else best)
    (0, 0)

/-- A group in lower-case hexadecimal digits. -/
def groupText (n : Nat) : List Char := Nat.toDigits 16 n

/-- Groups with colons between them. -/
def groupsText (groups : List Nat) : List Char := [':'].intercalate (groups.map groupText)

/-- The shortest written form of a version 6 address: the first of the longest runs of zeros is
left out, if it has two groups or more. -/
def version6Text (groups : List Nat) : List Char :=
  let (start, length) := longestZeroRun groups
  if length < 2 then groupsText groups
  else groupsText (groups.take start) ++ [':', ':'] ++ groupsText (groups.drop (start + length))

/-- A version 4 address in writing. -/
def version4Text (octets : List Nat) : String := ".".intercalate (octets.map toString)

end WaitingList.IpAddress
