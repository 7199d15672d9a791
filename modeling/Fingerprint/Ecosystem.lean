/-
The package ecosystems and the manifest file of each. Their order is the order
of precedence: what an earlier manifest says about language and entrypoint
stands.
-/
import Fingerprint.Table

namespace Fingerprint

/-- A package ecosystem. -/
inductive Ecosystem where
  | node
  | rust
  | python
  | ruby
  | go
  | php
  | swift
  deriving DecidableEq, Repr, Inhabited

/-- Versions by package name. -/
abbrev Versions := Table String String

namespace Ecosystem

/-- Every ecosystem, in order of precedence. -/
def all : List Ecosystem := [node, rust, python, ruby, go, php, swift]

/-- The name of an ecosystem. -/
def name : Ecosystem → String
  | node => "node"
  | rust => "rust"
  | python => "python"
  | ruby => "ruby"
  | go => "go"
  | php => "php"
  | swift => "swift"

/-- The name of the manifest file that declares an ecosystem's packages. -/
def manifestName : Ecosystem → String
  | node => "package.json"
  | rust => "Cargo.toml"
  | python => "requirements.txt"
  | ruby => "Gemfile"
  | go => "go.mod"
  | php => "composer.json"
  | swift => "Podfile"

theorem mem_all (e : Ecosystem) : e ∈ all := by cases e <;> decide

theorem nodup_all : all.Nodup := by decide

theorem name_injective {a b : Ecosystem} (h : a.name = b.name) : a = b := by
  cases a <;> cases b <;> first | rfl | simp [name] at h

/-- The ecosystem of exactly this name. -/
def withName? (s : String) : Option Ecosystem := all.find? fun e => e.name == s

end Ecosystem

end Fingerprint
