import MarkupLint.Directive

namespace MarkupLint

/-!
# Languages of code blocks

A code block names its language in a tag.  A tag can be matched strictly, when
it has to be the name of the language, or loosely, when containing the name is
enough, so that `html+php` counts as both.
-/

/-- A language that a code block can be written in. -/
inductive Language where
  | php
  | phpAnnotations
  | phpAttributes
  | phpSymfony
  | phpStandalone
  | html
  | htmlPhp
  | htmlTwig
  | twig
  | xml
  | yaml
  | json
  | ini
  | bash
  | terminal
  | text
  | rst
  | diff
  | javascript
  | sql
  deriving Repr, DecidableEq

namespace Language

/-- Every language. -/
def all : List Language :=
  [php, phpAnnotations, phpAttributes, phpSymfony, phpStandalone, html, htmlPhp, htmlTwig, twig,
   xml, yaml, json, ini, bash, terminal, text, rst, diff, javascript, sql]

/-- The tag of a language as it is written in a document. -/
def tag : Language → String
  | php => "php"
  | phpAnnotations => "php-annotations"
  | phpAttributes => "php-attributes"
  | phpSymfony => "php-symfony"
  | phpStandalone => "php-standalone"
  | html => "html"
  | htmlPhp => "html+php"
  | htmlTwig => "html+twig"
  | twig => "twig"
  | xml => "xml"
  | yaml => "yaml"
  | json => "json"
  | ini => "ini"
  | bash => "bash"
  | terminal => "terminal"
  | text => "text"
  | rst => "rst"
  | diff => "diff"
  | javascript => "javascript"
  | sql => "sql"

/-- The language with a given tag. -/
def ofTag? (tag : List Char) : Option Language :=
  all.find? fun language => language.tag.toList == tag

/-- Whether a written tag names the language; white space around it is free. -/
def matchesTag (language : Language) (strict : Bool) (written : List Char) : Bool :=
  if strict then
    trim written == language.tag.toList
  else
    occursIn language.tag.toList (trim written)

end Language

/--
Whether a line opens a code block in the language.  The shorthand `::` stands
for any language, but only loosely.
-/
def Line.opensCodeBlock (line : Line) (language : Language) (strict : Bool) : Bool :=
  match Directive.ofLine? line with
  | none => false
  | some .literalShorthand => !strict
  | some (.named name argument) =>
      DirectiveKind.ofName? name == some .codeBlock &&
        match argument with
        | none => false
        | some written => language.matchesTag strict written

end MarkupLint
