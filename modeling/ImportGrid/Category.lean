/-
Categories of module paths.

A matcher is a named predicate on module paths.  Matchers are tried in order and the
first that accepts a path names its category; a path that none accepts is `unqualified`.
-/
import ImportGrid.Pattern.Reader

namespace ImportGrid

/-- The category of a path that no matcher accepts. -/
def unqualified : Text := "unqualified".toList

/-- A regular expression together with the text it was read from. -/
structure ModulePattern where
  /-- The expression as written. -/
  text : Text
  /-- What it denotes. -/
  regex : Pattern.Regex
deriving Repr, DecidableEq

/-- The pattern that a text denotes, if it is a regular expression. -/
def ModulePattern.ofText? (text : Text) : Option ModulePattern :=
  (Pattern.readRegex? text).map (⟨text, ·⟩)

/-- How a matcher recognises module paths. -/
inductive Predicate where
  /-- Paths that begin with a dot: `./button`, `../lib`. -/
  | relative
  /-- Platform modules: `node:path`, `fs`, `fs/promises`. -/
  | node
  /-- Framework packages: `react`, `next/router`. -/
  | privileged
  /-- Paths in which the pattern is found. -/
  | pattern (p : ModulePattern)
  /-- Paths that a function accepts. -/
  | custom (accepts : Text → Bool)

/-- Platform modules that are recognised without the `node:` scheme. -/
def platformModules : List Text :=
  ["child_process", "crypto", "events", "fs", "http", "https", "os", "path", "module", "util",
    "url", "stream", "buffer"].map String.toList

/-- The framework packages that lead the import block. -/
def frameworkPackages : List Text := ["react", "vite", "next", "vue"].map String.toList

/-- Whether a path is a module or lies below it: `fs` itself, or `fs/` and more. -/
def isModuleOrBelow (name path : Text) : Bool := path == name || (name ++ ['/']).isPrefixOf path

/-- Whether a path satisfies a predicate. -/
def Predicate.accepts : Predicate → Text → Bool
  | relative, path => path.head? == some '.'
  | node, path =>
    "node:".toList.isPrefixOf path || platformModules.any (isModuleOrBelow · path)
  | privileged, path => frameworkPackages.any (isModuleOrBelow · path)
  | pattern p, path => p.regex.foundIn path
  | custom f, path => f path

/-- A named predicate. -/
structure Matcher where
  name : Text
  predicate : Predicate

/-- Whether a matcher claims a module path. -/
def Matcher.accepts (m : Matcher) (path : Text) : Bool := m.predicate.accepts path

/-- The matchers that every configuration starts from. -/
def defaultMatchers : List Matcher :=
  [⟨"relative".toList, .relative⟩, ⟨"node".toList, .node⟩, ⟨"privileged".toList, .privileged⟩]

/-- The name of the first matcher that accepts a path, or `unqualified`. -/
def categorize (matchers : List Matcher) (path : Text) : Text :=
  match matchers.find? (·.accepts path) with
  | some m => m.name
  | none => unqualified

end ImportGrid
