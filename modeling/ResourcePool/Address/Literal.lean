import ResourcePool.Address.Basic

/-! Reading address literals. Decimal octets have no leading zeros; groups have
one to four hexadecimal digits, one run of them may be left out, and the last
two may be written as four octets. -/
namespace ResourcePool.Address

def octet? (cs : List Char) : Option (Nat × List Char) :=
  let run := cs.takeWhile Char.isDigit
  let n := run.foldl (fun n c => n * 10 + (c.toNat - '0'.toNat)) 0
  if run.isEmpty || 3 < run.length || 255 < n || (run.head? == some '0' && 1 < run.length) then none
  else some (n, cs.drop run.length)

def group? (cs : List Char) : Option (Nat × List Char) :=
  let run := cs.takeWhile fun c => (Text.hexDigit? c).isSome
  if run.isEmpty || 4 < run.length then none
  else (Text.hexValue? run).map (·, cs.drop run.length)

def after? (c : Char) : List Char → Option (List Char)
  | [] => none
  | d :: rest => if d = c then some rest else none

def four? (cs : List Char) : Option (Nat × List Char) := do
  let (a, cs) ← octet? cs
  let (b, cs) ← after? '.' cs >>= octet?
  let (c, cs) ← after? '.' cs >>= octet?
  let (d, cs) ← after? '.' cs >>= octet?
  pure (join 8 [a, b, c, d], cs)

structure Groups where
  values : List Nat
  embedded : Bool
  rest : List Char

/-- As many groups as there are, up to a number of them. -/
def groups : Nat → Bool → List Char → Groups
  | 0, _, cs => ⟨[], false, cs⟩
  | room + 1, first, cs =>
      match if first then some cs else after? ':' cs with
      | none => ⟨[], false, cs⟩
      | some body =>
          match if room = 0 then none else four? body with
          | some (n, rest) => ⟨[n >>> 16, n % 1 <<< 16], true, rest⟩
          | none =>
              match group? body with
              | none => ⟨[], false, cs⟩
              | some (value, rest) =>
                  let tail := groups room false rest
                  { tail with values := value :: tail.values }

def sixteen? (cs : List Char) : Option (Nat × List Char) :=
  let head := groups 8 true cs
  if head.values.length = 8 then some (join 16 head.values, head.rest)
  else if head.embedded then none
  else do
    let rest ← after? ':' head.rest >>= after? ':'
    let tail := groups (7 - head.values.length) true rest
    let gap := List.replicate (8 - head.values.length - tail.values.length) 0
    pure (join 16 (head.values ++ gap ++ tail.values), tail.rest)

/-- The address that a literal names; nothing may follow it. -/
def ofLiteral? (text : String) : Option Address :=
  match four? text.toList with
  | some (n, rest) => if rest.isEmpty then some (v4 (BitVec.ofNat 32 n)) else none
  | none =>
      match sixteen? text.toList with
      | some (n, []) => some (v6 (BitVec.ofNat 128 n))
      | _ => none

end ResourcePool.Address
