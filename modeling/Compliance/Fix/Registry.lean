import Compliance.Fix.Pattern
import Compliance.Rule.Catalog

/-!
# The fix registry

Fix patterns in the order in which they are tried.  The built-in ones turn
generic errors into framework exceptions by the words of their message, rethrow
from empty handlers, wrap thrown literals, upgrade remote URLs, drop `debugger`
lines and route writes through the transaction client.
-/

namespace Compliance

open Pattern

/-- A generic error whose message holds the keyword; the quoted message is group 1. -/
def errorWithKeyword (keyword : Pattern) : Pattern :=
  throwNewError ++ blanks ++
    group 1 (single quotes ++ many (.compl quotes) ++ keyword ++ many (.compl quotes) ++
      single quotes) ++
    blanks ++ lit ")"

def phrase (first second : String) : Pattern := litFolded first ++ blanks1 ++ litFolded second

def notFoundKeyword : Pattern :=
  alt (phrase "not" "found") (litFolded "does" ++ blanks1 ++ phrase "not" "exist")

def unauthorizedKeyword : Pattern :=
  oneOf [litFolded "unauthori" ++ single (.folded (.anyOf "sz")) ++ litFolded "ed",
    phrase "not" "authenticated", phrase "invalid" "credentials"]

def forbiddenKeyword : Pattern :=
  oneOf [litFolded "forbidden", phrase "access" "denied", phrase "not" "allowed",
    litFolded "permission"]

def badRequestKeyword : Pattern :=
  oneOf [litFolded "invalid", litFolded "required", phrase "must" "be", phrase "bad" "request"]

/-- Exceptions and their keywords, the most specific first. -/
def exceptionKeywords : List (String × Pattern) :=
  [("NotFoundException", notFoundKeyword), ("UnauthorizedException", unauthorizedKeyword),
    ("ForbiddenException", forbiddenKeyword), ("BadRequestException", badRequestKeyword)]

def exceptionFix (exception : String) (keyword : Pattern) : FixPattern where
  ruleId := "ERR001"
  matcher := ⟨errorWithKeyword keyword, []⟩
  replacement := .template ("throw new " ++ exception ++ "($\x7b1\x7d)")
  description := "Replace generic Error with " ++ exception
  prerequisite := some ⟨exception, "@nestjs/common"⟩

/-- An empty handler on one line: its binding is group 1, the bound name group 2. -/
def emptyHandler : Pattern :=
  wordEdge ++ lit "catch" ++ blanks ++
    opt (group 1 (lit "(" ++ blanks ++ group 2 (many1 nameChars) ++ blanks ++
      opt (lit ":" ++ many (.noneOf ")")) ++ lit ")")) ++
    blanks ++ lit "\x7b" ++ blanks ++ lit "\x7d"

def rethrow (found : Match) : Text :=
  match found.group? 1, found.group? 2 with
  | some binding, some name =>
      "catch ".toList ++ Text.trim binding ++ " \x7b throw ".toList ++ name ++ "; \x7d".toList
  | _, _ => "catch (error) \x7b throw error; \x7d".toList

def rethrowFix : FixPattern where
  ruleId := "ERR002"
  matcher := ⟨emptyHandler, []⟩
  replacement := .function rethrow
  description := "Rethrow from empty catch block"

def thrownLiteral : Pattern :=
  wordEdge ++ lit "throw" ++ blanks1 ++
    group 1 (single quotes ++ many (.compl quotes) ++ single quotes)

def wrapLiteralFix : FixPattern where
  ruleId := "ERR005"
  matcher := ⟨thrownLiteral, []⟩
  replacement := .template "throw new Error($\x7b1\x7d)"
  description := "Wrap thrown literal in Error"

def upgradeUrl (found : Match) : Text :=
  let host := found.group 1
  if isLocalHost host then found.text else "https://".toList ++ host

def upgradeUrlFix : FixPattern where
  ruleId := "SEC004"
  matcher := ⟨httpUrl, []⟩
  replacement := .function upgradeUrl
  description := "Upgrade remote URL to https"

def dropDebuggerFix : FixPattern where
  ruleId := "MAINT004"
  matcher := ⟨debuggerLine, []⟩
  replacement := .template ""
  description := "Remove debugger statement"

def outerClientWrite : Pattern :=
  opt (wordEdge ++ lit "this.") ++ wordEdge ++ lit "prisma." ++ group 1 (many1 nameChars) ++
    lit "." ++ group 2 writeVerbs ++ wordEdge

def transactionClientFix : FixPattern where
  ruleId := "TXN002"
  matcher := ⟨outerClientWrite, []⟩
  replacement := .template "tx.$\x7b1\x7d.$\x7b2\x7d"
  description := "Route write through transaction client"

abbrev Registry := List FixPattern

namespace Registry

def standard : Registry :=
  exceptionKeywords.map (fun (exception, keyword) => exceptionFix exception keyword) ++
    [rethrowFix, wrapLiteralFix, upgradeUrlFix, dropDebuggerFix, transactionClientFix]

def forRule (registry : Registry) (ruleId : String) : Registry :=
  registry.filter fun fix => sameName fix.ruleId ruleId

end Registry

end Compliance
