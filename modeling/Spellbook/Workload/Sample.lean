/-!
# Sample sources

Sources that between them use every kind of token, every kind of statement, and most of what
evaluation can do without trouble.
-/

namespace Spellbook.Workload

def asSource (lines : List String) : String := String.intercalate "\n" lines

def tokenSample : String := asSource
  ["", "conjure ml as \"multi", "line string\"", "conjure end as \"x\"", "~ single line comment",
    "~~ multi", "   line", "   comment ~~", "conjure a as 42", "summon b as 3.14",
    "conjure s as \"hello\\n\\t\\r\\\"\\\\world\"",
    "conjure t as 'single quoted with \\n newline'", "conjure lst as tome [1, 2, 3,]",
    "conjure d as grimoire \x7b\"k\": 1, \"j\": 2,\x7d",
    "conjure x as (1 + 2) * 3 - 4 / 2 % 5 ** 2",
    "prophecy reveals a is 42 and not b isnt 0 or a exceeds 1 \x7b", "    transmute a as a + 1",
    "\x7d", "otherwise prophecy a under 0 \x7b", "    scribe_line(\"neg\")", "\x7d",
    "fate decrees \x7b", "    scribe_line(\"else\")", "\x7d", "spell add(x, y) \x7b",
    "    cast x + y", "\x7d", "hunt each item in lst \x7b", "    scribe_line(item)", "\x7d",
    "patrol until a atleast 100 \x7b", "    break", "\x7d", "vanquish a",
    "const prophecy PI as 3.14159", "conjure flag as charm true", "conjure flag2 as charm false",
    "conjure nul as void", "conjure arr as [1, 2.5, \"three\"]",
    "conjure obj as \x7b\"a\": 1\x7d", "conjure m as obj.a", ""]

def statementSample : String := tokenSample ++ asSource
  ["incantation greet(who) \x7b", "    cast \"hi \" + who", "\x7d", "spell nop() \x7b",
    "    cast", "\x7d", "conjure both as lst + arr", "conjure power as 2 ** 3 ** 2",
    "conjure nested as [[1, 2], [3, 4]][1][0]", "conjure pot as potion 4", "conjure ru as rune 7",
    "conjure sc as scroll \"abc\"", "conjure cmp as (1 atleast 1) or (1 atmost 0)",
    "hunt each v in both \x7b", "    prophecy reveals v is 2 \x7b", "        continue",
    "    \x7d", "\x7d", "patrol until charm true \x7b", "    transmute m as m - 1", "\x7d",
    "greet(\"there\")", "nop()", "measure(both)", ""]

/-- A source that runs without trouble and leaves a number under the name `acc`. -/
def programSample : String := asSource
  ["", "conjure acc as 0", "summon name as \"world\"", "const prophecy PI as 3.0",
    "conjure f as 2.5", "conjure lst as tome [1, 2, 3,]", "conjure lst2 as [4, 5, 6]",
    "conjure both as lst + lst2", "conjure rep as lst * 2",
    "conjure map as grimoire \x7b\"a\": 1, \"b\": 2,\x7d", "conjure map2 as \x7b\"c\": 3\x7d",
    "conjure empty as tome []", "conjure edict as grimoire \x7b\x7d", "conjure nul as void",
    "conjure yes as charm true", "conjure no as charm false", "conjure pot as potion 4",
    "conjure pot2 as potion 1.5", "conjure ru as rune 7", "conjure sc as scroll \"abc\"", "",
    "transmute acc as acc + 1", "conjure got as lst[0] + map[\"a\"] + sc[0]",
    "conjure mem as map.b", "", "conjure math1 as 1 + 2 - 3 * 4 / 2 % 3 ** 2",
    "conjure cat as \"hi \" + name", "conjure cat2 as 5 + \"!\"", "conjure mul1 as \"ab\" * 3",
    "conjure mul2 as 3 * \"xy\"", "conjure neg as -f", "conjure nt as not yes", "",
    "conjure cmp as (1 is 1) and (1 isnt 2) and (2 exceeds 1) and (0 under 1)",
    "conjure cmp2 as (1 atleast 1) or (1 atmost 0)", "conjure logic as yes and no",
    "conjure logic2 as no or yes",
    "conjure truth as (0) or (\"\") or (empty) or (edict) or (nul) or (lst)", "",
    "spell addup(a, b) \x7b", "    conjure tmp as a + b", "    cast tmp", "\x7d",
    "spell nop() \x7b", "    cast", "\x7d", "incantation greet(who) \x7b",
    "    cast \"hi \" + who", "\x7d", "incantation tell() \x7b", "    conjure msg as \"told\"",
    "\x7d", "incantation quiet() \x7b", "\x7d", "", "conjure r1 as addup(3, 4)", "nop()",
    "conjure r2 as greet(\"there\")", "tell()", "quiet()", "conjure r3 as addup",
    "conjure r4 as (r3 and 1)", "conjure ml as measure(lst)", "conjure ty as type_of(lst)",
    "conjure rg as range(0, 5, 1)", "", "prophecy reveals acc is 1 \x7b",
    "    transmute acc as acc + 10", "\x7d", "prophecy reveals acc is 0 \x7b",
    "    transmute acc as 0", "\x7d", "otherwise prophecy acc is 11 \x7b",
    "    transmute acc as acc + 100", "\x7d", "fate decrees \x7b", "    transmute acc as acc - 1",
    "\x7d", "prophecy reveals 0 \x7b", "    transmute acc as 0", "\x7d",
    "otherwise prophecy 0 \x7b", "    transmute acc as 0", "\x7d", "fate decrees \x7b",
    "    transmute acc as acc + 1", "\x7d", "prophecy reveals 0 \x7b", "    transmute acc as 0",
    "\x7d", "", "conjure i as 0", "patrol until i atleast 5 \x7b", "    transmute i as i + 1",
    "    prophecy reveals i is 4 \x7b", "        break", "    \x7d", "\x7d", "transmute i as 0",
    "patrol until i atleast 3 \x7b", "    transmute i as i + 1",
    "    prophecy reveals i is 2 \x7b", "        continue", "    \x7d",
    "    prophecy reveals i is 10 \x7b", "        break", "    \x7d",
    "    transmute acc as acc + i", "\x7d", "", "hunt each v in both \x7b",
    "    prophecy reveals v is 5 \x7b", "        continue", "    \x7d",
    "    prophecy reveals v is 6 \x7b", "        break", "    \x7d",
    "    transmute acc as acc + v", "\x7d", "", "conjure tmpdel as 1", "vanquish tmpdel", ""]

end Spellbook.Workload
