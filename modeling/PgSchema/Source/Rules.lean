/-!
The rules of the language that modules are written in.

A rule has alternatives, which are tried one after the other.  An alternative is written as the parts
that it reads: a name of another rule, a mark or keyword between quotes, or a sort of tokens in
capitals; `[x]` is there or not, `x*` and `x+` come any number of times, `s.x+` comes with
separators between, `&x` and `!x` only look ahead, `&&x` has to be there, and behind `~` no other
alternative is tried.

Behind a `#` stands the complaint of an alternative that only reads what is wrong: the number of the
part that is to blame, zero for the last token that was read, and the message.
-/

namespace PgSchema.Source

/-- A rule as it is written: its name and its alternatives. -/
abbrev RuleText := String × List String

/-- The rules whose outcome at a place is kept. -/
def keptRules : List String :=
  ["simple_stmt", "block", "expression", "star_expression", "disjunction", "conjunction",
   "inversion", "bitwise_or", "bitwise_xor", "bitwise_and", "shift_expr", "sum", "term", "factor",
   "await_primary", "primary", "t_primary", "strings", "arguments", "star_target",
   "target_with_star_atom", "del_target", "dotted_name", "invalid_named_expression"]

/-- The rules inside which no complaints are made. -/
def quietRules : List String := ["expression_without_invalid"]

/-- Statements. -/
def statementRules : List RuleText :=
  [("file", ["[statements] FINISH"]),
   ("statements", ["statement+"]),
   ("statement", ["compound_stmt", "simple_stmts"]),
   ("simple_stmts", ["simple_stmt !';' NEWLINE", "';'.simple_stmt+ [';'] NEWLINE"]),
   ("simple_stmt",
      ["assignment", "star_expressions", "&'return' return_stmt",
       "&('import' | 'from') import_stmt", "&'raise' raise_stmt", "'pass'", "&'del' del_stmt",
       "&'yield' yield_expr", "&'assert' assert_stmt", "'break'", "'continue'",
       "&'global' global_stmt", "&'nonlocal' nonlocal_stmt"]),
   ("compound_stmt",
      ["&('def' | '@' | 'async') function_def", "&'if' if_stmt", "&('class' | '@') class_def",
       "&('with' | 'async') with_stmt", "&('for' | 'async') for_stmt", "&'try' try_stmt",
       "&'while' while_stmt"]),
   ("assignment",
      ["NAME ':' expression ['=' annotated_rhs]",
       "('(' single_target ')' | single_subscript_attribute_target) ':' expression " ++
         "['=' annotated_rhs]",
       "(star_targets '=')+ (yield_expr | star_expressions) !'='",
       "single_target augassign ~ (yield_expr | star_expressions)",
       "invalid_assignment"]),
   ("annotated_rhs", ["yield_expr", "star_expressions"]),
   ("augassign",
      ["'+='", "'-='", "'*='", "'@='", "'/='", "'%='", "'&='", "'|='", "'^='", "'<<='", "'>>='",
       "'**='", "'//='"]),
   ("return_stmt", ["'return' [star_expressions]"]),
   ("raise_stmt", ["'raise' expression ['from' expression]", "'raise'"]),
   ("global_stmt", ["'global' ','.NAME+"]),
   ("nonlocal_stmt", ["'nonlocal' ','.NAME+"]),
   ("del_stmt", ["'del' del_targets &(';' | NEWLINE)", "invalid_del_stmt"]),
   ("assert_stmt", ["'assert' expression [',' expression]"]),
   ("import_stmt", ["import_name", "import_from"]),
   ("import_name", ["'import' dotted_as_names"]),
   ("import_from",
      ["'from' ('.' | '...')* dotted_name 'import' import_from_targets",
       "'from' ('.' | '...')+ 'import' import_from_targets"]),
   ("import_from_targets",
      ["'(' import_from_as_names [','] ')'", "import_from_as_names !','", "'*'",
       "invalid_import_from_targets"]),
   ("import_from_as_names", ["','.import_from_as_name+"]),
   ("import_from_as_name", ["NAME ['as' NAME]"]),
   ("dotted_as_names", ["','.dotted_as_name+"]),
   ("dotted_as_name", ["dotted_name ['as' NAME]"]),
   ("dotted_name", ["NAME ('.' NAME)*"]),
   ("block", ["NEWLINE INDENT statements DEDENT", "simple_stmts", "invalid_block"]),
   ("if_stmt",
      ["invalid_if_stmt", "'if' named_expression ':' block elif_stmt",
       "'if' named_expression ':' block [else_block]"]),
   ("elif_stmt",
      ["'elif' named_expression ':' block elif_stmt",
       "'elif' named_expression ':' block [else_block]"]),
   ("else_block", ["'else' &&':' block"]),
   ("while_stmt", ["invalid_while_stmt", "'while' named_expression ':' block [else_block]"]),
   ("for_stmt",
      ["invalid_for_stmt",
       "['async'] 'for' star_targets 'in' ~ star_expressions &&':' block [else_block]",
       "invalid_for_target"]),
   ("with_stmt",
      ["['async'] 'with' '(' ','.with_item+ [','] ')' ':' block",
       "['async'] 'with' ','.with_item+ ':' block"]),
   ("with_item",
      ["expression 'as' star_target &(',' | ')' | ':')", "invalid_with_item", "expression"]),
   ("try_stmt",
      ["'try' &&':' block finally_block",
       "'try' &&':' block except_block+ [else_block] [finally_block]"]),
   ("except_block", ["'except' ['*'] expression ['as' NAME] ':' block", "'except' ':' block"]),
   ("finally_block", ["'finally' &&':' block"])]

/-- Classes and functions. -/
def definitionRules : List RuleText :=
  [("decorators", ["('@' named_expression NEWLINE)+"]),
   ("class_def", ["decorators class_def_raw", "class_def_raw"]),
   ("class_def_raw",
      ["invalid_class_def_raw", "'class' NAME ['(' [arguments] ')'] ':' block"]),
   ("function_def", ["decorators function_def_raw", "function_def_raw"]),
   ("function_def_raw",
      ["invalid_def_raw",
       "['async'] 'def' NAME &&'(' [params] ')' ['->' expression] &&':' block"]),
   ("params", ["invalid_parameters", "parameters"]),
   ("parameters",
      ["slash_no_default param_no_default* param_with_default* [star_etc]",
       "slash_with_default param_with_default* [star_etc]",
       "param_no_default+ param_with_default* [star_etc]", "param_with_default+ [star_etc]",
       "star_etc"]),
   ("slash_no_default", ["param_no_default+ '/' ','", "param_no_default+ '/' &')'"]),
   ("slash_with_default",
      ["param_no_default* param_with_default+ '/' ','",
       "param_no_default* param_with_default+ '/' &')'"]),
   ("star_etc",
      ["invalid_star_etc", "'*' param_no_default param_maybe_default* [kwds]",
       "'*' param_no_default_star_type param_maybe_default* [kwds]",
       "'*' ',' param_maybe_default+ [kwds]", "kwds"]),
   ("kwds", ["invalid_kwds", "'**' param_no_default"]),
   ("param_no_default", ["param ','", "param &')'"]),
   ("param_no_default_star_type", ["param_star_type ','", "param_star_type &')'"]),
   ("param_with_default", ["param default ','", "param default &')'"]),
   ("param_maybe_default", ["param [default] ','", "param [default] &')'"]),
   ("param", ["NAME [param_type]"]),
   ("param_star_type", ["NAME star_type"]),
   ("param_type", ["':' expression"]),
   ("star_type", ["':' star_expression"]),
   ("default", ["'=' expression", "invalid_default"])]

/-- Expressions. -/
def expressionRules : List RuleText :=
  [("expression",
      ["invalid_expression", "invalid_legacy_expression",
       "disjunction 'if' disjunction 'else' expression", "disjunction", "lambdef"]),
   ("yield_expr", ["'yield' 'from' expression", "'yield' [star_expressions]"]),
   ("star_expressions",
      ["star_expression (',' star_expression)+ [',']", "star_expression ','", "star_expression"]),
   ("star_expression", ["'*' bitwise_or", "expression"]),
   ("star_named_expressions", ["','.star_named_expression+ [',']"]),
   ("star_named_expression", ["'*' bitwise_or", "named_expression"]),
   ("assignment_expression", ["NAME ':=' ~ expression"]),
   ("named_expression",
      ["assignment_expression", "invalid_named_expression", "expression !':='"]),
   ("disjunction", ["conjunction ('or' conjunction)*"]),
   ("conjunction", ["inversion ('and' inversion)*"]),
   ("inversion", ["'not' inversion", "comparison"]),
   ("comparison", ["bitwise_or (comparison_mark bitwise_or)*"]),
   ("comparison_mark",
      ["'=='", "'!='", "'<='", "'<'", "'>='", "'>'", "'not' 'in'", "'in'", "'is' 'not'", "'is'"]),
   ("bitwise_or", ["bitwise_xor ('|' bitwise_xor)*"]),
   ("bitwise_xor", ["bitwise_and ('^' bitwise_and)*"]),
   ("bitwise_and", ["shift_expr ('&' shift_expr)*"]),
   ("shift_expr", ["sum (('<<' | '>>') sum)*"]),
   ("sum", ["term (('+' | '-') term)*"]),
   ("term", ["factor (('*' | '/' | '//' | '%' | '@') factor)*"]),
   ("factor", ["'+' factor", "'-' factor", "'~' factor", "power"]),
   ("power", ["await_primary '**' factor", "await_primary"]),
   ("await_primary", ["'await' primary", "primary"]),
   ("primary", ["atom trailer*"]),
   ("trailer", ["'.' NAME", "genexp", "'(' [arguments] ')'", "'[' slices ']'"]),
   ("slices", ["slice !','", "','.(slice | starred_expression)+ [',']"]),
   ("slice", ["[expression] ':' [expression] [':' [expression]]", "named_expression"]),
   ("atom",
      ["NAME", "'True'", "'False'", "'None'", "&TEXT strings", "NUMBER",
       "&'(' (tuple | group | genexp)", "&'[' (list | listcomp)",
       "&'\x7b' (dict | set | dictcomp | setcomp)", "'...'"]),
   ("group", ["'(' (yield_expr | named_expression) ')'", "invalid_group"]),
   ("lambdef", ["'lambda' [lambda_params] ':' expression"]),
   ("lambda_params", ["','.lambda_param+ [',']"]),
   ("lambda_param", ["'*' [NAME]", "'**' NAME", "'/'", "NAME ['=' expression]"]),
   ("strings", ["TEXT+"]),
   ("list", ["'[' [star_named_expressions] ']'"]),
   ("tuple", ["'(' [star_named_expression ',' [star_named_expressions]] ')'"]),
   ("set", ["'\x7b' star_named_expressions '\x7d'"]),
   ("dict",
      ["'\x7b' [double_starred_kvpairs] '\x7d'", "'\x7b' invalid_double_starred_kvpairs '\x7d'"]),
   ("double_starred_kvpairs", ["','.double_starred_kvpair+ [',']"]),
   ("double_starred_kvpair", ["'**' bitwise_or", "kvpair"]),
   ("kvpair", ["expression ':' expression"]),
   ("for_if_clauses", ["for_if_clause+"]),
   ("for_if_clause",
      ["['async'] 'for' star_targets 'in' ~ disjunction ('if' disjunction)*",
       "invalid_for_target"]),
   ("listcomp", ["'[' named_expression for_if_clauses ']'", "invalid_comprehension"]),
   ("setcomp", ["'\x7b' named_expression for_if_clauses '\x7d'", "invalid_comprehension"]),
   ("genexp",
      ["'(' (assignment_expression | expression !':=') for_if_clauses ')'",
       "invalid_comprehension"]),
   ("dictcomp", ["'\x7b' kvpair for_if_clauses '\x7d'", "invalid_dict_comprehension"]),
   ("arguments", ["args [','] &')'", "invalid_arguments"]),
   ("args",
      ["','.(starred_expression | (assignment_expression | expression !':=') !'=')+ [',' kwargs]",
       "kwargs"]),
   ("kwargs",
      ["','.kwarg_or_starred+ ',' ','.kwarg_or_double_starred+", "','.kwarg_or_starred+",
       "','.kwarg_or_double_starred+"]),
   ("starred_expression", ["'*' expression"]),
   ("kwarg_or_starred", ["invalid_kwarg", "NAME '=' expression", "starred_expression"]),
   ("kwarg_or_double_starred", ["invalid_kwarg", "NAME '=' expression", "'**' expression"])]

/-- Targets of assignments. -/
def targetRules : List RuleText :=
  [("star_targets", ["star_target !','", "star_target (',' star_target)* [',']"]),
   ("star_targets_list_seq", ["','.star_target+ [',']"]),
   ("star_targets_tuple_seq",
      ["star_target (',' star_target)+ [',']", "star_target ','"]),
   ("star_target", ["'*' (!'*' star_target)", "target_with_star_atom"]),
   ("target_with_star_atom",
      ["t_primary '.' NAME !t_lookahead", "t_primary '[' slices ']' !t_lookahead", "star_atom"]),
   ("star_atom",
      ["NAME", "'(' target_with_star_atom ')'", "'(' [star_targets_tuple_seq] ')'",
       "'[' [star_targets_list_seq] ']'"]),
   ("single_target", ["single_subscript_attribute_target", "NAME", "'(' single_target ')'"]),
   ("single_subscript_attribute_target",
      ["t_primary '.' NAME !t_lookahead", "t_primary '[' slices ']' !t_lookahead"]),
   ("t_primary", ["atom &t_lookahead t_trailer*"]),
   ("t_trailer",
      ["'.' NAME &t_lookahead", "'[' slices ']' &t_lookahead", "genexp &t_lookahead",
       "'(' [arguments] ')' &t_lookahead"]),
   ("t_lookahead", ["'('", "'['", "'.'"]),
   ("del_targets", ["','.del_target+ [',']"]),
   ("del_target",
      ["t_primary '.' NAME !t_lookahead", "t_primary '[' slices ']' !t_lookahead",
       "del_t_atom"]),
   ("del_t_atom",
      ["NAME", "'(' del_target ')'", "'(' [del_targets] ')'", "'[' [del_targets] ']'"])]

/-- What is wrong in expressions. -/
def expressionComplaints : List RuleText :=
  [("invalid_arguments",
      ["args ',' '*' # 1 iterable argument unpacking follows keyword argument unpacking",
       "expression for_if_clauses ',' [args | expression for_if_clauses] " ++
         "# 1 Generator expression must be parenthesized",
       "NAME '=' expression for_if_clauses " ++
         "# 1 invalid syntax. Maybe you meant '==' or ':=' instead of '='?",
       "args for_if_clauses # bare-generator 1 Generator expression must be parenthesized",
       "args ',' expression for_if_clauses # 3 Generator expression must be parenthesized",
       "args ',' args # order 1 positional argument follows keyword argument"]),
   ("invalid_kwarg",
      ["('True' | 'False' | 'None') '=' # 1 cannot assign to %n",
       "NAME '=' expression for_if_clauses " ++
         "# 1 invalid syntax. Maybe you meant '==' or ':=' instead of '='?",
       "!(NAME '=') expression '=' " ++
         "# 1 expression cannot contain assignment, perhaps you meant \"==\"?"]),
   ("expression_without_invalid",
      ["disjunction 'if' disjunction 'else' expression", "disjunction", "lambdef"]),
   ("invalid_legacy_expression",
      ["NAME !'(' star_expressions " ++
         "# old-statement 1 Missing parentheses in call to '%n'. Did you mean %n(...)?"]),
   ("invalid_expression",
      ["!(NAME TEXT | SOFT) disjunction expression_without_invalid " ++
         "# comma 1 invalid syntax. Perhaps you forgot a comma?",
       "disjunction 'if' disjunction !('else' | ':') " ++
         "# 1 expected 'else' after 'if' expression"]),
   ("invalid_named_expression",
      ["expression ':=' expression # 1 cannot use assignment expressions with %e",
       "NAME '=' bitwise_or !('=' | ':=') " ++
         "# 1 invalid syntax. Maybe you meant '==' or ':=' instead of '='?",
       "!(list | tuple | genexp | 'True' | 'None' | 'False') bitwise_or '=' bitwise_or " ++
         "!('=' | ':=') " ++
         "# 1 cannot assign to %e here. Maybe you meant '==' instead of '='?"]),
   ("invalid_comprehension",
      ["('[' | '(' | '\x7b') starred_expression for_if_clauses " ++
         "# 2 iterable unpacking cannot be used in comprehension",
       "('[' | '\x7b') star_named_expression ',' star_named_expressions for_if_clauses " ++
         "# 2 did you forget parentheses around the comprehension target?",
       "('[' | '\x7b') star_named_expression ',' for_if_clauses " ++
         "# 2 did you forget parentheses around the comprehension target?"]),
   ("invalid_dict_comprehension",
      ["'\x7b' '**' bitwise_or for_if_clauses '\x7d' " ++
         "# 2 dict unpacking cannot be used in dict comprehension"]),
   ("invalid_group",
      ["'(' starred_expression ')' # 2 cannot use starred expression here",
       "'(' '**' expression ')' # 2 cannot use double starred expression here"]),
   ("invalid_double_starred_kvpairs",
      ["','.double_starred_kvpair+ ',' invalid_kvpair",
       "expression ':' '*' bitwise_or # 3 cannot use a starred expression in a dictionary value",
       "expression ':' &('\x7d' | ',') # 2 expression expected after dictionary key and ':'"]),
   ("invalid_kvpair",
      ["expression !':' # 1 ':' expected after dictionary key",
       "expression ':' '*' bitwise_or # 3 cannot use a starred expression in a dictionary value",
       "expression ':' &('\x7d' | ',') # 2 expression expected after dictionary key and ':'"])]

/-- What is wrong in statements. -/
def statementComplaints : List RuleText :=
  [("invalid_assignment",
      ["invalid_ann_assign_target ':' expression # 1 only single target (not %e) can be annotated",
       "star_named_expression ',' star_named_expressions* ':' expression " ++
         "# 1 only single target (not tuple) can be annotated",
       "expression ':' expression # 1 illegal target for annotation",
       "(star_targets '=')* star_expressions '=' # assign 2 cannot assign to %e",
       "(star_targets '=')* yield_expr '=' # 2 assignment to yield expression not possible",
       "star_expressions augassign (yield_expr | star_expressions) " ++
         "# 1 '%e' is an illegal expression for augmented assignment"]),
   ("invalid_ann_assign_target", ["list", "tuple", "'(' invalid_ann_assign_target ')'"]),
   ("invalid_del_stmt", ["'del' star_expressions # delete 2 cannot delete %e"]),
   ("invalid_block", ["NEWLINE !INDENT # indented 1 expected an indented block"]),
   ("invalid_with_item",
      ["expression 'as' expression &(',' | ')' | ':') # assign 3 cannot assign to %e"]),
   ("invalid_for_target", ["['async'] 'for' star_expressions # loop 3 cannot assign to %e"]),
   ("invalid_import_from_targets",
      ["import_from_as_names ',' NEWLINE " ++
         "# 0 trailing comma not allowed without surrounding parentheses"]),
   ("invalid_if_stmt",
      ["'if' named_expression NEWLINE # 0 expected ':'",
       "'if' named_expression ':' NEWLINE !INDENT " ++
         "# indented 1 expected an indented block after 'if' statement on line %l"]),
   ("invalid_while_stmt",
      ["'while' named_expression NEWLINE # 0 expected ':'",
       "'while' named_expression ':' NEWLINE !INDENT " ++
         "# indented 1 expected an indented block after 'while' statement on line %l"]),
   ("invalid_for_stmt",
      ["['async'] 'for' star_targets 'in' star_expressions NEWLINE # 0 expected ':'",
       "['async'] 'for' star_targets 'in' star_expressions ':' NEWLINE !INDENT " ++
         "# indented 2 expected an indented block after 'for' statement on line %l"]),
   ("invalid_class_def_raw",
      ["'class' NAME ['(' [arguments] ')'] NEWLINE # 0 expected ':'",
       "'class' NAME ['(' [arguments] ')'] ':' NEWLINE !INDENT " ++
         "# indented 1 expected an indented block after class definition on line %l"]),
   ("invalid_def_raw",
      ["['async'] 'def' NAME '(' [params] ')' ['->' expression] ':' NEWLINE !INDENT " ++
         "# indented 2 expected an indented block after function definition on line %l"]),
   ("invalid_parameters",
      ["param_no_default* invalid_parameters_helper param_no_default " ++
         "# 3 non-default argument follows default argument",
       "param_no_default* '(' param_no_default+ [','] ')' " ++
         "# 2 Function parameters cannot be parenthesized",
       "'/' ',' # 1 at least one argument must precede /",
       "(slash_no_default | slash_with_default) param_maybe_default* '/' " ++
         "# 3 / may appear only once",
       "[slash_no_default | slash_with_default] param_maybe_default* '*' " ++
         "(',' | param_no_default) param_maybe_default* '/' # 6 / must be ahead of *",
       "param_maybe_default+ '/' '*' # 3 expected comma between / and *"]),
   ("invalid_parameters_helper", ["slash_with_default", "param_with_default+"]),
   ("invalid_default", ["'=' &(')' | ',') # 1 expected default value expression"]),
   ("invalid_star_etc",
      ["'*' (')' | ',' (')' | '**')) # 1 named arguments must follow bare *",
       "'*' param '=' # 3 var-positional argument cannot have default value",
       "'*' (param_no_default | ',') param_maybe_default* '*' (param_no_default | ',') " ++
         "# 4 * argument may appear only once"]),
   ("invalid_kwds",
      ["'**' param '=' # 3 var-keyword argument cannot have default value",
       "'**' param ',' param # 4 arguments cannot follow var-keyword argument",
       "'**' param ',' ('*' | '**' | '/') # 4 arguments cannot follow var-keyword argument"])]

/-- All rules. -/
def allRules : List RuleText :=
  statementRules ++ definitionRules ++ expressionRules ++ targetRules ++ expressionComplaints ++
    statementComplaints

end PgSchema.Source
