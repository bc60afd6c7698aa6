/-
**Options and switches.**

What a shell does can be changed by options, most of which have letters, and by switches, which have only
names.

* `optionNames`, `switchNames`: their names;
* `arranged`: the letters of options in the order in which they are shown.
-/

import Workyard.Shell.Octets

namespace Workyard.Shell.Extended

/-- The options with their letters; those without a letter have other signs. -/
def optionNames : List (String × Char) :=
  [("allexport", 'a'), ("braceexpand", 'B'), ("emacs", '\x01'), ("errexit", 'e'), ("errtrace", 'E'),
    ("functrace", 'T'), ("hashall", 'h'), ("histexpand", 'H'), ("history", '\x02'), ("ignoreeof", '\x03'),
    ("interactive-comments", '\x04'), ("keyword", 'k'), ("monitor", 'm'), ("noclobber", 'C'),
    ("noexec", 'n'), ("noglob", 'f'), ("nolog", '\x05'), ("notify", 'b'), ("nounset", 'u'),
    ("onecmd", 't'), ("physical", 'P'), ("pipefail", '\x06'), ("posix", '\x07'), ("privileged", 'p'),
    ("verbose", 'v'), ("vi", '\x08'), ("xtrace", 'x')]

/-- The sign of the option by which a pipeline fails if one of its commands does. -/
def pipefail : Char := '\x06'

/-- The options that are on at first. -/
def firstOptions : List Char := ['h', 'B', '\x04']

/-- Signs of options in the order in which they are shown. -/
def arranged (signs : List Char) : List Char :=
  "abefhikmnptuvxBCEHPTcs\x01\x02\x03\x04\x05\x06\x07\x08".toList.filter signs.contains

/-- The letters by which options are given. -/
def optionLetters : List Char := "abefhkmnptuvxBCEHPTilsrDc".toList

/-- The switches. -/
def switchNames : List String :=
  ["autocd", "assoc_expand_once", "cdable_vars", "cdspell", "checkhash", "checkjobs", "checkwinsize",
    "cmdhist", "compat31", "compat32", "compat40", "compat41", "compat42", "compat43", "compat44",
    "complete_fullquote", "direxpand", "dirspell", "dotglob", "execfail", "expand_aliases", "extdebug",
    "extglob", "extquote", "failglob", "force_fignore", "globasciiranges", "globskipdots", "globstar",
    "gnu_errfmt", "histappend", "histreedit", "histverify", "hostcomplete", "huponexit",
    "inherit_errexit", "interactive_comments", "lastpipe", "lithist", "localvar_inherit",
    "localvar_unset", "login_shell", "mailwarn", "no_empty_cmd_completion", "nocaseglob", "nocasematch",
    "noexpand_translation", "nullglob", "patsub_replacement", "progcomp", "progcomp_alias", "promptvars",
    "restricted_shell", "shift_verbose", "sourcepath", "varredir_close", "xpg_echo"]

/-- The switches that are on at first. -/
def firstSwitches : List String :=
  ["checkwinsize", "cmdhist", "complete_fullquote", "extquote", "force_fignore", "globasciiranges",
    "globskipdots", "hostcomplete", "interactive_comments", "patsub_replacement", "progcomp", "promptvars",
    "sourcepath"]

/-- The names of what is on among names, in their order. -/
def listedNames (names : List String) : Octets := octets (":".intercalate names)

end Workyard.Shell.Extended
