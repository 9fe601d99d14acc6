import Mathlib

/-!
# Options of a command line

`getopt` with its default ordering: option elements begin with a hyphen and may hold several letters, a letter
may take the rest of its element or the next element as its argument, other elements are passed over, and two
hyphens end the scan. An element is a list of bytes.
-/
namespace Getopt

def hyphen : UInt8 := 45
def colon : UInt8 := 58

/-- What one call returns: a letter, a letter with its argument, or a question mark for a letter that is not
known or has no argument. -/
inductive Opt where
  | flag (letter : UInt8)
  | arg (letter : UInt8) (value : List UInt8)
  | unknown
  deriving DecidableEq, Repr

/-- Whether a letter of the option string takes an argument. -/
def takesArgument (optstring : List UInt8) (letter : UInt8) : Option Bool :=
  if letter = colon then none
  else
    match optstring.dropWhile (· ≠ letter) with
    | [] => none
    | _ :: rest => some (rest.head? == some colon)

/-- The options of one element; its last letter may still need the next element. -/
def element (optstring : List UInt8) : List UInt8 → List Opt × Option UInt8
  | [] => ([], none)
  | letter :: rest =>
      match takesArgument optstring letter with
      | none => ((element optstring rest).map (.unknown :: ·) id)
      | some false => ((element optstring rest).map (.flag letter :: ·) id)
      | some true => if rest = [] then ([], some letter) else ([.arg letter rest], none)

def getopt (optstring : List UInt8) : List (List UInt8) → List Opt
  | [] => []
  | arg :: args =>
      match arg with
      | first :: second :: rest =>
          if first = hyphen then
            if second = hyphen ∧ rest = [] then []
            else
              match element optstring (second :: rest) with
              | (options, none) => options ++ getopt optstring args
              | (options, some letter) =>
                  options ++
                    match args with
                    | [] => [.unknown]
                    | value :: args => .arg letter value :: getopt optstring args
          else getopt optstring args
      | _ => getopt optstring args

end Getopt
