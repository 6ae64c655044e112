import CardKeeper.Toml.Lexeme
import CardKeeper.Toml.Scalar
import CardKeeper.Toml.Table

/-!
# Documents of TOML

A document is a list of lines: headers, which name the table that the lines after them belong to,
and members, which are keys with their values.  Reading gives the lines first and then lets each of
them add to the table of the whole document, which fails where two lines contradict each other.
-/

namespace CardKeeper
namespace Toml

/-- The character at the start, and what follows it. -/
def character? (wanted : Char) : List Char → Option (List Char)
  | [] => none
  | character :: rest => if character = wanted then some rest else none

/-- Values with commas between them up to the end of a list, where lines may break anywhere.  The
first argument bounds the number of values. -/
def listItems? (value? : List Char → Option (Value × List Char)) :
    Nat → List Char → Option (List Value × List Char)
  | 0, _ => none
  | count + 1, characters =>
      (skipLines? false characters).bind fun characters =>
        match characters with
        | ']' :: rest => some ([], rest)
        | characters =>
            (value? characters).bind fun (value, rest) =>
              (skipLines? false rest).bind fun rest =>
                match rest with
                | ']' :: rest => some ([value], rest)
                | ',' :: rest =>
                    (listItems? value? count rest).map fun (values, rest) => (value :: values, rest)
                | _ => none

/-- A key, an equals sign and a value. -/
def member? (value? : List Char → Option (Value × List Char)) (characters : List Char) :
    Option ((List String × Value) × List Char) :=
  (key? characters).bind fun (keys, rest) =>
    (character? '=' (skipBlanks rest)).bind fun rest =>
      (value? (skipBlanks rest)).map fun (value, rest) => ((keys, value), rest)

/-- Members with commas between them up to the end of a table in braces, all on one line.  The
first argument bounds the number of members. -/
def braceItems? (value? : List Char → Option (Value × List Char)) :
    Nat → List Char → Option (List (List String × Value) × List Char)
  | 0, _ => none
  | count + 1, characters =>
      (member? value? characters).bind fun (pair, rest) =>
        match skipBlanks rest with
        | '\x7d' :: rest => some ([pair], rest)
        | ',' :: rest =>
            (braceItems? value? count rest).map fun (pairs, rest) => (pair :: pairs, rest)
        | _ => none

/-- The value that starts here, with a number of brackets that may still be opened. -/
def value? : Nat → List Char → Option (Value × List Char)
  | depth, characters =>
      match characters with
      | [] => none
      | first :: rest =>
          if first = '[' then
            match depth with
            | 0 => none
            | depth + 1 =>
                (listItems? (value? depth) (rest.length + 1) rest).map fun (values, rest) =>
                  (.list values, rest)
          else if first = '\x7b' then
            match depth with
            | 0 => none
            | depth + 1 =>
                match skipBlanks rest with
                | '\x7d' :: rest => some (.table [], rest)
                | rest =>
                    (braceItems? (value? depth) (rest.length + 1) rest).bind fun (pairs, rest) =>
                      (tableOf pairs).map fun members => (.table members, rest)
          else if first = quote || first = apostrophe then
            (anyText? (first :: rest)).map fun (content, rest) =>
              (.text (String.ofList content), rest)
          else scalarValue? (first :: rest)

/-- A line that says something. -/
inductive Line where
  /-- The header of a table. -/
  | header (path : List String)
  /-- The header of one of several tables. -/
  | repeated (path : List String)
  /-- A key and its value. -/
  | member (keys : List String) (value : Value)

/-- The header that follows an opening bracket. -/
def header? (characters : List Char) : Option (Line × List Char) :=
  match characters with
  | '[' :: rest =>
      (key? rest).bind fun (path, rest) =>
        match rest with
        | ']' :: ']' :: rest => some (.repeated path, rest)
        | _ => none
  | rest =>
      (key? rest).bind fun (path, rest) =>
        match rest with
        | ']' :: rest => some (.header path, rest)
        | _ => none

/-- The line that starts here, if it says something, and what follows its end. -/
def line? (characters : List Char) : Option (Option Line × List Char) :=
  match skipBlanks characters with
  | [] => some (none, [])
  | first :: rest =>
      if first = '#' || first = '\n' || first = '\r' then
        (lineEnd? (first :: rest)).map fun rest => (none, rest)
      else
        let line :=
          if first = '[' then header? rest
          else
            (member? (value? (depthLimit - 1)) (first :: rest)).map fun (pair, rest) =>
              (.member pair.1 pair.2, rest)
        line.bind fun (line, rest) => (lineEnd? rest).map fun rest => (some line, rest)

/-- The lines of a document.  The first argument bounds their number. -/
def lines? : Nat → List Char → Option (List Line)
  | _, [] => some []
  | 0, _ :: _ => none
  | count + 1, characters =>
      (line? characters).bind fun (line, rest) =>
        (lines? count rest).map fun lines => line.toList ++ lines

/-- The items of a document after one more line, with the path of the header that the line
follows. -/
def addLine (state : List String × Items) (line : Line) : Option (List String × Items) :=
  match line with
  | .header path => (openTable path state.2).map fun items => (path, items)
  | .repeated path => (openRepeated path state.2).map fun items => (path, items)
  | .member keys value =>
      (changeUnder (addDotted keys value) state.1 state.2).map fun items => (state.1, items)

/-- What a document says. -/
def parse? (text : String) : Option (List (String × Value)) :=
  let characters :=
    match text.toList with
    | '\uFEFF' :: rest => rest
    | characters => characters
  (lines? (characters.length + 1) characters).bind fun lines =>
    (lines.foldlM addLine ([], [])).map fun state => valuesOf state.2

end Toml
end CardKeeper
