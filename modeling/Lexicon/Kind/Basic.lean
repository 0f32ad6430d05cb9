/-!
# Kinds

Every token, piece of trivia and syntax node carries a `Kind`. Kinds are numbered in blocks with
unassigned codes between them, and they are ordered by code, so a family of kinds is a closed
interval of codes.
-/

namespace Lexicon

/-- Tag of a token, a piece of trivia or a syntax node, listed in ascending order of code. -/
inductive Kind where
  -- sentinels
  | noKind | list
  -- simple punctuation
  | tildeToken | exclamationToken | dollarToken | percentToken | caretToken | ampersandToken
  | asteriskToken | openParenToken | closeParenToken | minusToken | plusToken | equalsToken
  | openBraceToken | closeBraceToken | openBracketToken | closeBracketToken | barToken
  | backslashToken | colonToken | semicolonToken | doubleQuoteToken | singleQuoteToken
  | lessThanToken | commaToken | greaterThanToken | dotToken | questionToken | hashToken
  | slashToken | slashGreaterThanToken | lessThanSlashToken | xmlCommentStartToken
  | xmlCommentEndToken | xmlCDataStartToken | xmlCDataEndToken
  | xmlProcessingInstructionStartToken | xmlProcessingInstructionEndToken
  -- compound punctuation
  | barBarToken | ampersandAmpersandToken | minusMinusToken | plusPlusToken | colonColonToken
  | questionQuestionToken | minusGreaterThanToken | exclamationEqualsToken | equalsEqualsToken
  | equalsGreaterThanToken | lessThanEqualsToken | lessThanLessThanToken
  | lessThanLessThanEqualsToken | greaterThanEqualsToken | greaterThanGreaterThanToken
  | greaterThanGreaterThanEqualsToken | slashEqualsToken | asteriskEqualsToken | barEqualsToken
  | ampersandEqualsToken | plusEqualsToken | minusEqualsToken | caretEqualsToken
  | percentEqualsToken
  -- reserved keywords
  | boolKeyword | byteKeyword | sByteKeyword | shortKeyword | uShortKeyword | intKeyword
  | uIntKeyword | longKeyword | uLongKeyword | doubleKeyword | floatKeyword | decimalKeyword
  | stringKeyword | charKeyword | voidKeyword | objectKeyword | typeOfKeyword | sizeOfKeyword
  | nullKeyword | trueKeyword | falseKeyword | ifKeyword | elseKeyword | whileKeyword
  | forKeyword | forEachKeyword | doKeyword | switchKeyword | caseKeyword | defaultKeyword
  | tryKeyword | catchKeyword | finallyKeyword | lockKeyword | gotoKeyword | breakKeyword
  | continueKeyword | returnKeyword | throwKeyword | publicKeyword | privateKeyword
  | internalKeyword | protectedKeyword | staticKeyword | readOnlyKeyword | sealedKeyword
  | constKeyword | fixedKeyword | stackAllocKeyword | volatileKeyword | newKeyword
  | overrideKeyword | abstractKeyword | virtualKeyword | eventKeyword | externKeyword
  | refKeyword | outKeyword | inKeyword | isKeyword | asKeyword | paramsKeyword | argListKeyword
  | makeRefKeyword | refTypeKeyword | refValueKeyword | thisKeyword | baseKeyword
  | namespaceKeyword | usingKeyword | classKeyword | structKeyword | interfaceKeyword
  | enumKeyword | delegateKeyword | checkedKeyword | uncheckedKeyword | unsafeKeyword
  | operatorKeyword | explicitKeyword | implicitKeyword
  -- preprocessor keywords
  | elifKeyword | endIfKeyword | regionKeyword | endRegionKeyword | defineKeyword | undefKeyword
  | warningKeyword | errorKeyword | lineKeyword | pragmaKeyword | hiddenKeyword
  | checksumKeyword | disableKeyword | restoreKeyword | referenceKeyword | loadKeyword
  -- contextual keywords
  | yieldKeyword | partialKeyword | aliasKeyword | globalKeyword | assemblyKeyword
  | moduleKeyword | typeKeyword | fieldKeyword | methodKeyword | paramKeyword | propertyKeyword
  | typeVarKeyword | getKeyword | setKeyword | addKeyword | removeKeyword | whereKeyword
  | fromKeyword | groupKeyword | joinKeyword | intoKeyword | letKeyword | byKeyword
  | selectKeyword | orderByKeyword | onKeyword | equalsKeyword | ascendingKeyword
  | descendingKeyword | nameOfKeyword | asyncKeyword | awaitKeyword | whenKeyword
  | underscoreToken
  -- structural tokens
  | endOfDirectiveToken | endOfDocumentationCommentToken | endOfFileToken | badToken
  -- identifier and literal tokens
  | identifierToken | numericLiteralToken | characterLiteralToken | stringLiteralToken
  | xmlEntityLiteralToken | xmlTextLiteralToken | xmlTextLiteralNewLineToken
  -- interpolated string tokens
  | interpolatedStringStartToken | interpolatedVerbatimStringStartToken
  | interpolatedStringTextToken | interpolatedStringEndToken | interpolatedStringToken
  -- trivia
  | endOfLineTrivia | whitespaceTrivia | singleLineCommentTrivia | multiLineCommentTrivia
  | documentationCommentExteriorTrivia | singleLineDocumentationCommentTrivia
  | multiLineDocumentationCommentTrivia | disabledTextTrivia | conflictMarkerTrivia
  -- directive trivia
  | ifDirectiveTrivia | elifDirectiveTrivia | elseDirectiveTrivia | endIfDirectiveTrivia
  | regionDirectiveTrivia | endRegionDirectiveTrivia | defineDirectiveTrivia
  | undefDirectiveTrivia | errorDirectiveTrivia | warningDirectiveTrivia | lineDirectiveTrivia
  | pragmaWarningDirectiveTrivia | pragmaChecksumDirectiveTrivia | referenceDirectiveTrivia
  | loadDirectiveTrivia | badDirectiveTrivia | shebangDirectiveTrivia
  -- names
  | identifierName | qualifiedName | genericName | aliasQualifiedName
  -- types
  | predefinedType | arrayType | pointerType | nullableType | tupleType
  -- prefix unary expressions
  | unaryPlusExpression | unaryMinusExpression | bitwiseNotExpression | logicalNotExpression
  | preIncrementExpression | preDecrementExpression | addressOfExpression
  | pointerIndirectionExpression
  -- postfix unary expressions
  | postIncrementExpression | postDecrementExpression
  -- binary expressions
  | addExpression | subtractExpression | multiplyExpression | divideExpression
  | moduloExpression | leftShiftExpression | rightShiftExpression | logicalOrExpression
  | logicalAndExpression | bitwiseOrExpression | bitwiseAndExpression | exclusiveOrExpression
  | equalsExpression | notEqualsExpression | lessThanExpression | lessThanOrEqualExpression
  | greaterThanExpression | greaterThanOrEqualExpression | isExpression | asExpression
  | coalesceExpression
  -- assignment expressions
  | simpleAssignmentExpression | addAssignmentExpression | subtractAssignmentExpression
  | multiplyAssignmentExpression | divideAssignmentExpression | moduloAssignmentExpression
  | andAssignmentExpression | exclusiveOrAssignmentExpression | orAssignmentExpression
  | leftShiftAssignmentExpression | rightShiftAssignmentExpression
  -- literal expressions
  | argListExpression | numericLiteralExpression | stringLiteralExpression
  | characterLiteralExpression | trueLiteralExpression | falseLiteralExpression
  | nullLiteralExpression
  -- instance expressions
  | thisExpression | baseExpression
  -- primary-function expressions
  | makeRefExpression | refTypeExpression | refValueExpression | checkedExpression
  | uncheckedExpression | defaultExpression | typeOfExpression | sizeOfExpression
  -- statements
  | checkedStatement | uncheckedStatement
  -- switch labels
  | caseSwitchLabel | defaultSwitchLabel
  -- member declarations
  | namespaceDeclaration | classDeclaration | structDeclaration | interfaceDeclaration
  | enumDeclaration | delegateDeclaration | globalStatement | fieldDeclaration
  | eventFieldDeclaration | methodDeclaration | propertyDeclaration | eventDeclaration
  -- accessor declarations
  | getAccessorDeclaration | setAccessorDeclaration | addAccessorDeclaration
  | removeAccessorDeclaration
  deriving DecidableEq, Inhabited

namespace Kind

/-- Number of a kind. New kinds are added at the end of their block, so codes never change. -/
def code : Kind → Nat
  | noKind => 0 | list => 1
  | tildeToken => 100 | exclamationToken => 101 | dollarToken => 102 | percentToken => 103
  | caretToken => 104 | ampersandToken => 105 | asteriskToken => 106 | openParenToken => 107
  | closeParenToken => 108 | minusToken => 109 | plusToken => 110 | equalsToken => 111
  | openBraceToken => 112 | closeBraceToken => 113 | openBracketToken => 114
  | closeBracketToken => 115 | barToken => 116 | backslashToken => 117 | colonToken => 118
  | semicolonToken => 119 | doubleQuoteToken => 120 | singleQuoteToken => 121
  | lessThanToken => 122 | commaToken => 123 | greaterThanToken => 124 | dotToken => 125
  | questionToken => 126 | hashToken => 127 | slashToken => 128 | slashGreaterThanToken => 129
  | lessThanSlashToken => 130 | xmlCommentStartToken => 131 | xmlCommentEndToken => 132
  | xmlCDataStartToken => 133 | xmlCDataEndToken => 134
  | xmlProcessingInstructionStartToken => 135 | xmlProcessingInstructionEndToken => 136
  | barBarToken => 200 | ampersandAmpersandToken => 201 | minusMinusToken => 202
  | plusPlusToken => 203 | colonColonToken => 204 | questionQuestionToken => 205
  | minusGreaterThanToken => 206 | exclamationEqualsToken => 207 | equalsEqualsToken => 208
  | equalsGreaterThanToken => 209 | lessThanEqualsToken => 210 | lessThanLessThanToken => 211
  | lessThanLessThanEqualsToken => 212 | greaterThanEqualsToken => 213
  | greaterThanGreaterThanToken => 214 | greaterThanGreaterThanEqualsToken => 215
  | slashEqualsToken => 216 | asteriskEqualsToken => 217 | barEqualsToken => 218
  | ampersandEqualsToken => 219 | plusEqualsToken => 220 | minusEqualsToken => 221
  | caretEqualsToken => 222 | percentEqualsToken => 223
  | boolKeyword => 300 | byteKeyword => 301 | sByteKeyword => 302 | shortKeyword => 303
  | uShortKeyword => 304 | intKeyword => 305 | uIntKeyword => 306 | longKeyword => 307
  | uLongKeyword => 308 | doubleKeyword => 309 | floatKeyword => 310 | decimalKeyword => 311
  | stringKeyword => 312 | charKeyword => 313 | voidKeyword => 314 | objectKeyword => 315
  | typeOfKeyword => 316 | sizeOfKeyword => 317 | nullKeyword => 318 | trueKeyword => 319
  | falseKeyword => 320 | ifKeyword => 321 | elseKeyword => 322 | whileKeyword => 323
  | forKeyword => 324 | forEachKeyword => 325 | doKeyword => 326 | switchKeyword => 327
  | caseKeyword => 328 | defaultKeyword => 329 | tryKeyword => 330 | catchKeyword => 331
  | finallyKeyword => 332 | lockKeyword => 333 | gotoKeyword => 334 | breakKeyword => 335
  | continueKeyword => 336 | returnKeyword => 337 | throwKeyword => 338 | publicKeyword => 339
  | privateKeyword => 340 | internalKeyword => 341 | protectedKeyword => 342
  | staticKeyword => 343 | readOnlyKeyword => 344 | sealedKeyword => 345 | constKeyword => 346
  | fixedKeyword => 347 | stackAllocKeyword => 348 | volatileKeyword => 349 | newKeyword => 350
  | overrideKeyword => 351 | abstractKeyword => 352 | virtualKeyword => 353
  | eventKeyword => 354 | externKeyword => 355 | refKeyword => 356 | outKeyword => 357
  | inKeyword => 358 | isKeyword => 359 | asKeyword => 360 | paramsKeyword => 361
  | argListKeyword => 362 | makeRefKeyword => 363 | refTypeKeyword => 364
  | refValueKeyword => 365 | thisKeyword => 366 | baseKeyword => 367 | namespaceKeyword => 368
  | usingKeyword => 369 | classKeyword => 370 | structKeyword => 371 | interfaceKeyword => 372
  | enumKeyword => 373 | delegateKeyword => 374 | checkedKeyword => 375
  | uncheckedKeyword => 376 | unsafeKeyword => 377 | operatorKeyword => 378
  | explicitKeyword => 379 | implicitKeyword => 380
  | elifKeyword => 400 | endIfKeyword => 401 | regionKeyword => 402 | endRegionKeyword => 403
  | defineKeyword => 404 | undefKeyword => 405 | warningKeyword => 406 | errorKeyword => 407
  | lineKeyword => 408 | pragmaKeyword => 409 | hiddenKeyword => 410 | checksumKeyword => 411
  | disableKeyword => 412 | restoreKeyword => 413 | referenceKeyword => 414 | loadKeyword => 415
  | yieldKeyword => 450 | partialKeyword => 451 | aliasKeyword => 452 | globalKeyword => 453
  | assemblyKeyword => 454 | moduleKeyword => 455 | typeKeyword => 456 | fieldKeyword => 457
  | methodKeyword => 458 | paramKeyword => 459 | propertyKeyword => 460 | typeVarKeyword => 461
  | getKeyword => 462 | setKeyword => 463 | addKeyword => 464 | removeKeyword => 465
  | whereKeyword => 466 | fromKeyword => 467 | groupKeyword => 468 | joinKeyword => 469
  | intoKeyword => 470 | letKeyword => 471 | byKeyword => 472 | selectKeyword => 473
  | orderByKeyword => 474 | onKeyword => 475 | equalsKeyword => 476 | ascendingKeyword => 477
  | descendingKeyword => 478 | nameOfKeyword => 479 | asyncKeyword => 480 | awaitKeyword => 481
  | whenKeyword => 482 | underscoreToken => 483
  | endOfDirectiveToken => 500 | endOfDocumentationCommentToken => 501 | endOfFileToken => 502
  | badToken => 503
  | identifierToken => 520 | numericLiteralToken => 521 | characterLiteralToken => 522
  | stringLiteralToken => 523 | xmlEntityLiteralToken => 524 | xmlTextLiteralToken => 525
  | xmlTextLiteralNewLineToken => 526
  | interpolatedStringStartToken => 540 | interpolatedVerbatimStringStartToken => 541
  | interpolatedStringTextToken => 542 | interpolatedStringEndToken => 543
  | interpolatedStringToken => 544
  | endOfLineTrivia => 600 | whitespaceTrivia => 601 | singleLineCommentTrivia => 602
  | multiLineCommentTrivia => 603 | documentationCommentExteriorTrivia => 604
  | singleLineDocumentationCommentTrivia => 605 | multiLineDocumentationCommentTrivia => 606
  | disabledTextTrivia => 607 | conflictMarkerTrivia => 608
  | ifDirectiveTrivia => 620 | elifDirectiveTrivia => 621 | elseDirectiveTrivia => 622
  | endIfDirectiveTrivia => 623 | regionDirectiveTrivia => 624 | endRegionDirectiveTrivia => 625
  | defineDirectiveTrivia => 626 | undefDirectiveTrivia => 627 | errorDirectiveTrivia => 628
  | warningDirectiveTrivia => 629 | lineDirectiveTrivia => 630
  | pragmaWarningDirectiveTrivia => 631 | pragmaChecksumDirectiveTrivia => 632
  | referenceDirectiveTrivia => 633 | loadDirectiveTrivia => 634 | badDirectiveTrivia => 635
  | shebangDirectiveTrivia => 636
  | identifierName => 700 | qualifiedName => 701 | genericName => 702
  | aliasQualifiedName => 703
  | predefinedType => 710 | arrayType => 711 | pointerType => 712 | nullableType => 713
  | tupleType => 714
  | unaryPlusExpression => 750 | unaryMinusExpression => 751 | bitwiseNotExpression => 752
  | logicalNotExpression => 753 | preIncrementExpression => 754 | preDecrementExpression => 755
  | addressOfExpression => 756 | pointerIndirectionExpression => 757
  | postIncrementExpression => 770 | postDecrementExpression => 771
  | addExpression => 780 | subtractExpression => 781 | multiplyExpression => 782
  | divideExpression => 783 | moduloExpression => 784 | leftShiftExpression => 785
  | rightShiftExpression => 786 | logicalOrExpression => 787 | logicalAndExpression => 788
  | bitwiseOrExpression => 789 | bitwiseAndExpression => 790 | exclusiveOrExpression => 791
  | equalsExpression => 792 | notEqualsExpression => 793 | lessThanExpression => 794
  | lessThanOrEqualExpression => 795 | greaterThanExpression => 796
  | greaterThanOrEqualExpression => 797 | isExpression => 798 | asExpression => 799
  | coalesceExpression => 800
  | simpleAssignmentExpression => 820 | addAssignmentExpression => 821
  | subtractAssignmentExpression => 822 | multiplyAssignmentExpression => 823
  | divideAssignmentExpression => 824 | moduloAssignmentExpression => 825
  | andAssignmentExpression => 826 | exclusiveOrAssignmentExpression => 827
  | orAssignmentExpression => 828 | leftShiftAssignmentExpression => 829
  | rightShiftAssignmentExpression => 830
  | argListExpression => 840 | numericLiteralExpression => 841 | stringLiteralExpression => 842
  | characterLiteralExpression => 843 | trueLiteralExpression => 844
  | falseLiteralExpression => 845 | nullLiteralExpression => 846
  | thisExpression => 860 | baseExpression => 861
  | makeRefExpression => 870 | refTypeExpression => 871 | refValueExpression => 872
  | checkedExpression => 873 | uncheckedExpression => 874 | defaultExpression => 875
  | typeOfExpression => 876 | sizeOfExpression => 877
  | checkedStatement => 900 | uncheckedStatement => 901
  | caseSwitchLabel => 910 | defaultSwitchLabel => 911
  | namespaceDeclaration => 950 | classDeclaration => 951 | structDeclaration => 952
  | interfaceDeclaration => 953 | enumDeclaration => 954 | delegateDeclaration => 955
  | globalStatement => 956 | fieldDeclaration => 957 | eventFieldDeclaration => 958
  | methodDeclaration => 959 | propertyDeclaration => 960 | eventDeclaration => 961
  | getAccessorDeclaration => 980 | setAccessorDeclaration => 981
  | addAccessorDeclaration => 982 | removeAccessorDeclaration => 983

instance : LT Kind := ⟨fun a b => a.code < b.code⟩
instance : LE Kind := ⟨fun a b => a.code ≤ b.code⟩

instance (a b : Kind) : Decidable (a < b) := inferInstanceAs (Decidable (a.code < b.code))
instance (a b : Kind) : Decidable (a ≤ b) := inferInstanceAs (Decidable (a.code ≤ b.code))

@[grind =] theorem lt_def {a b : Kind} : a < b ↔ a.code < b.code := Iff.rfl
@[grind =] theorem le_def {a b : Kind} : a ≤ b ↔ a.code ≤ b.code := Iff.rfl

/-- Every kind, in ascending order of code. -/
def all : List Kind :=
  [.noKind, .list,
   .tildeToken, .exclamationToken, .dollarToken, .percentToken, .caretToken, .ampersandToken,
   .asteriskToken, .openParenToken, .closeParenToken, .minusToken, .plusToken, .equalsToken,
   .openBraceToken, .closeBraceToken, .openBracketToken, .closeBracketToken, .barToken,
   .backslashToken, .colonToken, .semicolonToken, .doubleQuoteToken, .singleQuoteToken,
   .lessThanToken, .commaToken, .greaterThanToken, .dotToken, .questionToken, .hashToken,
   .slashToken, .slashGreaterThanToken, .lessThanSlashToken, .xmlCommentStartToken,
   .xmlCommentEndToken, .xmlCDataStartToken, .xmlCDataEndToken,
   .xmlProcessingInstructionStartToken, .xmlProcessingInstructionEndToken,
   .barBarToken, .ampersandAmpersandToken, .minusMinusToken, .plusPlusToken, .colonColonToken,
   .questionQuestionToken, .minusGreaterThanToken, .exclamationEqualsToken, .equalsEqualsToken,
   .equalsGreaterThanToken, .lessThanEqualsToken, .lessThanLessThanToken,
   .lessThanLessThanEqualsToken, .greaterThanEqualsToken, .greaterThanGreaterThanToken,
   .greaterThanGreaterThanEqualsToken, .slashEqualsToken, .asteriskEqualsToken, .barEqualsToken,
   .ampersandEqualsToken, .plusEqualsToken, .minusEqualsToken, .caretEqualsToken,
   .percentEqualsToken,
   .boolKeyword, .byteKeyword, .sByteKeyword, .shortKeyword, .uShortKeyword, .intKeyword,
   .uIntKeyword, .longKeyword, .uLongKeyword, .doubleKeyword, .floatKeyword, .decimalKeyword,
   .stringKeyword, .charKeyword, .voidKeyword, .objectKeyword, .typeOfKeyword, .sizeOfKeyword,
   .nullKeyword, .trueKeyword, .falseKeyword, .ifKeyword, .elseKeyword, .whileKeyword,
   .forKeyword, .forEachKeyword, .doKeyword, .switchKeyword, .caseKeyword, .defaultKeyword,
   .tryKeyword, .catchKeyword, .finallyKeyword, .lockKeyword, .gotoKeyword, .breakKeyword,
   .continueKeyword, .returnKeyword, .throwKeyword, .publicKeyword, .privateKeyword,
   .internalKeyword, .protectedKeyword, .staticKeyword, .readOnlyKeyword, .sealedKeyword,
   .constKeyword, .fixedKeyword, .stackAllocKeyword, .volatileKeyword, .newKeyword,
   .overrideKeyword, .abstractKeyword, .virtualKeyword, .eventKeyword, .externKeyword,
   .refKeyword, .outKeyword, .inKeyword, .isKeyword, .asKeyword, .paramsKeyword,
   .argListKeyword, .makeRefKeyword, .refTypeKeyword, .refValueKeyword, .thisKeyword,
   .baseKeyword, .namespaceKeyword, .usingKeyword, .classKeyword, .structKeyword,
   .interfaceKeyword, .enumKeyword, .delegateKeyword, .checkedKeyword, .uncheckedKeyword,
   .unsafeKeyword, .operatorKeyword, .explicitKeyword, .implicitKeyword,
   .elifKeyword, .endIfKeyword, .regionKeyword, .endRegionKeyword, .defineKeyword,
   .undefKeyword, .warningKeyword, .errorKeyword, .lineKeyword, .pragmaKeyword, .hiddenKeyword,
   .checksumKeyword, .disableKeyword, .restoreKeyword, .referenceKeyword, .loadKeyword,
   .yieldKeyword, .partialKeyword, .aliasKeyword, .globalKeyword, .assemblyKeyword,
   .moduleKeyword, .typeKeyword, .fieldKeyword, .methodKeyword, .paramKeyword, .propertyKeyword,
   .typeVarKeyword, .getKeyword, .setKeyword, .addKeyword, .removeKeyword, .whereKeyword,
   .fromKeyword, .groupKeyword, .joinKeyword, .intoKeyword, .letKeyword, .byKeyword,
   .selectKeyword, .orderByKeyword, .onKeyword, .equalsKeyword, .ascendingKeyword,
   .descendingKeyword, .nameOfKeyword, .asyncKeyword, .awaitKeyword, .whenKeyword,
   .underscoreToken,
   .endOfDirectiveToken, .endOfDocumentationCommentToken, .endOfFileToken, .badToken,
   .identifierToken, .numericLiteralToken, .characterLiteralToken, .stringLiteralToken,
   .xmlEntityLiteralToken, .xmlTextLiteralToken, .xmlTextLiteralNewLineToken,
   .interpolatedStringStartToken, .interpolatedVerbatimStringStartToken,
   .interpolatedStringTextToken, .interpolatedStringEndToken, .interpolatedStringToken,
   .endOfLineTrivia, .whitespaceTrivia, .singleLineCommentTrivia, .multiLineCommentTrivia,
   .documentationCommentExteriorTrivia, .singleLineDocumentationCommentTrivia,
   .multiLineDocumentationCommentTrivia, .disabledTextTrivia, .conflictMarkerTrivia,
   .ifDirectiveTrivia, .elifDirectiveTrivia, .elseDirectiveTrivia, .endIfDirectiveTrivia,
   .regionDirectiveTrivia, .endRegionDirectiveTrivia, .defineDirectiveTrivia,
   .undefDirectiveTrivia, .errorDirectiveTrivia, .warningDirectiveTrivia, .lineDirectiveTrivia,
   .pragmaWarningDirectiveTrivia, .pragmaChecksumDirectiveTrivia, .referenceDirectiveTrivia,
   .loadDirectiveTrivia, .badDirectiveTrivia, .shebangDirectiveTrivia,
   .identifierName, .qualifiedName, .genericName, .aliasQualifiedName,
   .predefinedType, .arrayType, .pointerType, .nullableType, .tupleType,
   .unaryPlusExpression, .unaryMinusExpression, .bitwiseNotExpression, .logicalNotExpression,
   .preIncrementExpression, .preDecrementExpression, .addressOfExpression,
   .pointerIndirectionExpression,
   .postIncrementExpression, .postDecrementExpression,
   .addExpression, .subtractExpression, .multiplyExpression, .divideExpression,
   .moduloExpression, .leftShiftExpression, .rightShiftExpression, .logicalOrExpression,
   .logicalAndExpression, .bitwiseOrExpression, .bitwiseAndExpression, .exclusiveOrExpression,
   .equalsExpression, .notEqualsExpression, .lessThanExpression, .lessThanOrEqualExpression,
   .greaterThanExpression, .greaterThanOrEqualExpression, .isExpression, .asExpression,
   .coalesceExpression,
   .simpleAssignmentExpression, .addAssignmentExpression, .subtractAssignmentExpression,
   .multiplyAssignmentExpression, .divideAssignmentExpression, .moduloAssignmentExpression,
   .andAssignmentExpression, .exclusiveOrAssignmentExpression, .orAssignmentExpression,
   .leftShiftAssignmentExpression, .rightShiftAssignmentExpression,
   .argListExpression, .numericLiteralExpression, .stringLiteralExpression,
   .characterLiteralExpression, .trueLiteralExpression, .falseLiteralExpression,
   .nullLiteralExpression,
   .thisExpression, .baseExpression,
   .makeRefExpression, .refTypeExpression, .refValueExpression, .checkedExpression,
   .uncheckedExpression, .defaultExpression, .typeOfExpression, .sizeOfExpression,
   .checkedStatement, .uncheckedStatement,
   .caseSwitchLabel, .defaultSwitchLabel,
   .namespaceDeclaration, .classDeclaration, .structDeclaration, .interfaceDeclaration,
   .enumDeclaration, .delegateDeclaration, .globalStatement, .fieldDeclaration,
   .eventFieldDeclaration, .methodDeclaration, .propertyDeclaration, .eventDeclaration,
   .getAccessorDeclaration, .setAccessorDeclaration, .addAccessorDeclaration,
   .removeAccessorDeclaration]

/-- Kinds in ascending order, repetitions kept. -/
def sort (kinds : List Kind) : List Kind :=
  kinds.mergeSort fun a b => a ≤ b

end Kind

end Lexicon
