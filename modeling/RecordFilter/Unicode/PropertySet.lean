/-
# Listed properties

The properties of code points that Unicode 16 gives by listing them.  Each set lists the places
where membership changes.  The properties that Unicode derives from these and from the general
categories are in a module of their own.
-/
import RecordFilter.Unicode.CodeSet

namespace RecordFilter

namespace Unicode

/-- The code points with the property ASCII_Hex_Digit. -/
def asciiHexDigit : CodeSet := .ofText
  "30 3a 41 47 61 67"

/-- The code points with the property Bidi_Control. -/
def bidiControl : CodeSet := .ofText
  "61c 61d 200e 2010 202a 202f 2066 206a"

/-- The code points with the property Bidi_Mirrored. -/
def bidiMirrored : CodeSet := .ofText
  "28 2a 3c 3d 3e 3f 5b 5c 5d 5e 7b 7c 7d 7e ab ac bb bc f3a f3e 169b 169d 2039 203b 2045 2047
   207d 207f 208d 208f 2140 2141 2201 2205 2208 220e 2211 2212 2215 2217 221a 221e 221f 2223
   2224 2225 2226 2227 222b 2234 2239 223a 223b 224d 2252 2256 225f 2261 2262 2263 2264 226c
   226d 228d 228f 2293 2298 2299 22a2 22a4 22a6 22b9 22be 22c0 22c9 22ce 22d0 22d2 22d6 22ee
   22f0 2300 2308 230c 2320 2322 2329 232b 2768 2776 27c0 27c1 27c3 27c7 27c8 27ca 27cb 27ce
   27d3 27d7 27dc 27df 27e2 27f0 2983 2999 299b 29a1 29a2 29b0 29b8 29b9 29c0 29c6 29c9 29ca
   29ce 29d3 29d4 29d6 29d8 29dd 29e1 29e2 29e3 29e6 29e8 29ea 29f4 29fa 29fc 29fe 2a0a 2a1d
   2a1e 2a22 2a24 2a25 2a26 2a27 2a29 2a2a 2a2b 2a2f 2a34 2a36 2a3c 2a3f 2a57 2a59 2a64 2a66
   2a6a 2a6e 2a6f 2a71 2a73 2a75 2a79 2aa4 2aa6 2aae 2aaf 2ad7 2adc 2add 2ade 2adf 2ae2 2ae7
   2aec 2aef 2af3 2af4 2af7 2afc 2afd 2afe 2bfe 2bff 2e02 2e06 2e09 2e0b 2e0c 2e0e 2e1c 2e1e
   2e20 2e2a 2e55 2e5d 3008 3012 3014 301c fe59 fe5f fe64 fe66 ff08 ff0a ff1c ff1d ff1e ff1f
   ff3b ff3c ff3d ff3e ff5b ff5c ff5d ff5e ff5f ff61 ff62 ff64 1d6db 1d6dc 1d715 1d716
   1d74f 1d750 1d789 1d78a 1d7c3 1d7c4"

/-- The code points with the property Dash. -/
def dash : CodeSet := .ofText
  "2d 2e 58a 58b 5be 5bf 1400 1401 1806 1807 2010 2016 2053 2054 207b 207c 208b 208c 2212 2213
   2e17 2e18 2e1a 2e1b 2e3a 2e3c 2e40 2e41 2e5d 2e5e 301c 301d 3030 3031 30a0 30a1 fe31 fe33
   fe58 fe59 fe63 fe64 ff0d ff0e 10d6e 10d6f 10ead 10eae"

/-- The code points with the property Default_Ignorable_Code_Point. -/
def defaultIgnorableCodePoint : CodeSet := .ofText
  "ad ae 34f 350 61c 61d 115f 1161 17b4 17b6 180b 1810 200b 2010 202a 202f 2060 2070 3164 3165
   fe00 fe10 feff ff00 ffa0 ffa1 fff0 fff9 1bca0 1bca4 1d173 1d17b e0000 e1000"

/-- The code points with the property Deprecated. -/
def deprecated : CodeSet := .ofText
  "149 14a 673 674 f77 f78 f79 f7a 17a3 17a5 206a 2070 2329 232b e0001 e0002"

/-- The code points with the property Diacritic. -/
def diacritic : CodeSet := .ofText
  "5e 5f 60 61 a8 a9 af b0 b4 b5 b7 b9 2b0 34f 350 358 35d 363 374 376 37a 37b 384 386 483 488
   559 55a 591 5a2 5a3 5be 5bf 5c0 5c1 5c3 5c4 5c5 64b 653 657 659 6df 6e1 6e5 6e7 6ea 6ed 730
   74b 7a6 7b1 7eb 7f6 818 81a 898 8a0 8c9 8d3 8e3 8ff 93c 93d 94d 94e 951 955 971 972 9bc 9bd
   9cd 9ce a3c a3d a4d a4e abc abd acd ace afd b00 b3c b3d b4d b4e b55 b56 bcd bce c3c c3d c4d
   c4e cbc cbd ccd cce d3b d3d d4d d4e dca dcb e3a e3b e47 e4d e4e e4f eba ebb ec8 ecd f18 f1a
   f35 f36 f37 f38 f39 f3a f3e f40 f82 f85 f86 f88 fc6 fc7 1037 1038 1039 103b 1063 1065 1069
   106e 1087 108e 108f 1090 109a 109c 135d 1360 1714 1716 1734 1735 17c9 17d4 17dd 17de 1939
   193c 1a60 1a61 1a75 1a7d 1a7f 1a80 1ab0 1abf 1ac1 1acc 1b34 1b35 1b44 1b45 1b6b 1b74 1baa
   1bac 1be6 1be7 1bf2 1bf4 1c36 1c38 1c78 1c7e 1cd0 1ce9 1ced 1cee 1cf4 1cf5 1cf7 1cfa 1d2c
   1d6b 1dc4 1dd0 1df5 1e00 1fbd 1fbe 1fbf 1fc2 1fcd 1fd0 1fdd 1fe0 1fed 1ff0 1ffd 1fff 2cef
   2cf2 2e2f 2e30 302a 3030 3099 309d 30fc 30fd a66f a670 a67c a67e a67f a680 a69c a69e a6f0
   a6f2 a700 a722 a788 a78b a7f8 a7fa a806 a807 a82c a82d a8c4 a8c5 a8e0 a8f2 a92b a92f a953
   a954 a9b3 a9b4 a9c0 a9c1 a9e5 a9e6 aa7b aa7e aabf aac3 aaf6 aaf7 ab5b ab60 ab69 ab6c abec
   abee fb1e fb1f fe20 fe30 ff3e ff3f ff40 ff41 ff70 ff71 ff9e ffa0 ffe3 ffe4 102e0 102e1
   10780 10786 10787 107b1 107b2 107bb 10a38 10a3b 10a3f 10a40 10ae5 10ae7 10d22 10d28 10d4e
   10d4f 10d69 10d6e 10efd 10f00 10f46 10f51 10f82 10f86 11046 11047 11070 11071 110b9 110bb
   11133 11135 11173 11174 111c0 111c1 111ca 111cd 11235 11237 112e9 112eb 1133b 1133d 1134d
   1134e 11366 1136d 11370 11375 113ce 113d1 113d2 113d4 113e1 113e3 11442 11443 11446 11447
   114c2 114c4 115bf 115c1 1163f 11640 116b6 116b8 1172b 1172c 11839 1183b 1193d 1193f 11943
   11944 119e0 119e1 11a34 11a35 11a47 11a48 11a99 11a9a 11c3f 11c40 11d42 11d43 11d44 11d46
   11d97 11d98 11f41 11f43 11f5a 11f5b 13447 13456 1612f 16130 16af0 16af5 16b30 16b37 16d6b
   16d6d 16f8f 16fa0 16ff0 16ff2 1aff0 1aff4 1aff5 1affc 1affd 1afff 1cf00 1cf2e 1cf30 1cf47
   1d167 1d16a 1d16d 1d173 1d17b 1d183 1d185 1d18c 1d1aa 1d1ae 1e030 1e06e 1e130 1e137 1e2ae
   1e2af 1e2ec 1e2f0 1e5ee 1e5f0 1e8d0 1e8d7 1e944 1e947 1e948 1e94b"

/-- The code points with the property Emoji. -/
def emoji : CodeSet := .ofText
  "23 24 2a 2b 30 3a a9 aa ae af 203c 203d 2049 204a 2122 2123 2139 213a 2194 219a 21a9 21ab
   231a 231c 2328 2329 23cf 23d0 23e9 23f4 23f8 23fb 24c2 24c3 25aa 25ac 25b6 25b7 25c0 25c1
   25fb 25ff 2600 2605 260e 260f 2611 2612 2614 2616 2618 2619 261d 261e 2620 2621 2622 2624
   2626 2627 262a 262b 262e 2630 2638 263b 2640 2641 2642 2643 2648 2654 265f 2661 2663 2664
   2665 2667 2668 2669 267b 267c 267e 2680 2692 2698 2699 269a 269b 269d 26a0 26a2 26a7 26a8
   26aa 26ac 26b0 26b2 26bd 26bf 26c4 26c6 26c8 26c9 26ce 26d0 26d1 26d2 26d3 26d5 26e9 26eb
   26f0 26f6 26f7 26fb 26fd 26fe 2702 2703 2705 2706 2708 270e 270f 2710 2712 2713 2714 2715
   2716 2717 271d 271e 2721 2722 2728 2729 2733 2735 2744 2745 2747 2748 274c 274d 274e 274f
   2753 2756 2757 2758 2763 2765 2795 2798 27a1 27a2 27b0 27b1 27bf 27c0 2934 2936 2b05 2b08
   2b1b 2b1d 2b50 2b51 2b55 2b56 3030 3031 303d 303e 3297 3298 3299 329a 1f004 1f005
   1f0cf 1f0d0 1f170 1f172 1f17e 1f180 1f18e 1f18f 1f191 1f19b 1f1e6 1f200 1f201 1f203
   1f21a 1f21b 1f22f 1f230 1f232 1f23b 1f250 1f252 1f300 1f322 1f324 1f394 1f396 1f398
   1f399 1f39c 1f39e 1f3f1 1f3f3 1f3f6 1f3f7 1f4fe 1f4ff 1f53e 1f549 1f54f 1f550 1f568
   1f56f 1f571 1f573 1f57b 1f587 1f588 1f58a 1f58e 1f590 1f591 1f595 1f597 1f5a4 1f5a6
   1f5a8 1f5a9 1f5b1 1f5b3 1f5bc 1f5bd 1f5c2 1f5c5 1f5d1 1f5d4 1f5dc 1f5df 1f5e1 1f5e2
   1f5e3 1f5e4 1f5e8 1f5e9 1f5ef 1f5f0 1f5f3 1f5f4 1f5fa 1f650 1f680 1f6c6 1f6cb 1f6d3
   1f6d5 1f6d8 1f6dc 1f6e6 1f6e9 1f6ea 1f6eb 1f6ed 1f6f0 1f6f1 1f6f3 1f6fd 1f7e0 1f7ec
   1f7f0 1f7f1 1f90c 1f93b 1f93c 1f946 1f947 1fa00 1fa70 1fa7d 1fa80 1fa8a 1fa8f 1fac7
   1face 1fadd 1fadf 1faea 1faf0 1faf9"

/-- The code points with the property Emoji_Component. -/
def emojiComponent : CodeSet := .ofText
  "23 24 2a 2b 30 3a 200d 200e 20e3 20e4 fe0f fe10 1f1e6 1f200 1f3fb 1f400 1f9b0 1f9b4
   e0020 e0080"

/-- The code points with the property Emoji_Modifier. -/
def emojiModifier : CodeSet := .ofText
  "1f3fb 1f400"

/-- The code points with the property Emoji_Modifier_Base. -/
def emojiModifierBase : CodeSet := .ofText
  "261d 261e 26f9 26fa 270a 270e 1f385 1f386 1f3c2 1f3c5 1f3c7 1f3c8 1f3ca 1f3cd 1f442 1f444
   1f446 1f451 1f466 1f479 1f47c 1f47d 1f481 1f484 1f485 1f488 1f48f 1f490 1f491 1f492
   1f4aa 1f4ab 1f574 1f576 1f57a 1f57b 1f590 1f591 1f595 1f597 1f645 1f648 1f64b 1f650
   1f6a3 1f6a4 1f6b4 1f6b7 1f6c0 1f6c1 1f6cc 1f6cd 1f90c 1f90d 1f90f 1f910 1f918 1f920
   1f926 1f927 1f930 1f93a 1f93c 1f93f 1f977 1f978 1f9b5 1f9b7 1f9b8 1f9ba 1f9bb 1f9bc
   1f9cd 1f9d0 1f9d1 1f9de 1fac3 1fac6 1faf0 1faf9"

/-- The code points with the property Emoji_Presentation. -/
def emojiPresentation : CodeSet := .ofText
  "231a 231c 23e9 23ed 23f0 23f1 23f3 23f4 25fd 25ff 2614 2616 2648 2654 267f 2680 2693 2694
   26a1 26a2 26aa 26ac 26bd 26bf 26c4 26c6 26ce 26cf 26d4 26d5 26ea 26eb 26f2 26f4 26f5 26f6
   26fa 26fb 26fd 26fe 2705 2706 270a 270c 2728 2729 274c 274d 274e 274f 2753 2756 2757 2758
   2795 2798 27b0 27b1 27bf 27c0 2b1b 2b1d 2b50 2b51 2b55 2b56 1f004 1f005 1f0cf 1f0d0
   1f18e 1f18f 1f191 1f19b 1f1e6 1f200 1f201 1f202 1f21a 1f21b 1f22f 1f230 1f232 1f237
   1f238 1f23b 1f250 1f252 1f300 1f321 1f32d 1f336 1f337 1f37d 1f37e 1f394 1f3a0 1f3cb
   1f3cf 1f3d4 1f3e0 1f3f1 1f3f4 1f3f5 1f3f8 1f43f 1f440 1f441 1f442 1f4fd 1f4ff 1f53e
   1f54b 1f54f 1f550 1f568 1f57a 1f57b 1f595 1f597 1f5a4 1f5a5 1f5fb 1f650 1f680 1f6c6
   1f6cc 1f6cd 1f6d0 1f6d3 1f6d5 1f6d8 1f6dc 1f6e0 1f6eb 1f6ed 1f6f4 1f6fd 1f7e0 1f7ec
   1f7f0 1f7f1 1f90c 1f93b 1f93c 1f946 1f947 1fa00 1fa70 1fa7d 1fa80 1fa8a 1fa8f 1fac7
   1face 1fadd 1fadf 1faea 1faf0 1faf9"

/-- The code points with the property Extended_Pictographic. -/
def extendedPictographic : CodeSet := .ofText
  "a9 aa ae af 203c 203d 2049 204a 2122 2123 2139 213a 2194 219a 21a9 21ab 231a 231c 2328 2329
   2388 2389 23cf 23d0 23e9 23f4 23f8 23fb 24c2 24c3 25aa 25ac 25b6 25b7 25c0 25c1 25fb 25ff
   2600 2606 2607 2613 2614 2686 2690 2706 2708 2713 2714 2715 2716 2717 271d 271e 2721 2722
   2728 2729 2733 2735 2744 2745 2747 2748 274c 274d 274e 274f 2753 2756 2757 2758 2763 2768
   2795 2798 27a1 27a2 27b0 27b1 27bf 27c0 2934 2936 2b05 2b08 2b1b 2b1d 2b50 2b51 2b55 2b56
   3030 3031 303d 303e 3297 3298 3299 329a 1f000 1f100 1f10d 1f110 1f12f 1f130 1f16c 1f172
   1f17e 1f180 1f18e 1f18f 1f191 1f19b 1f1ad 1f1e6 1f201 1f210 1f21a 1f21b 1f22f 1f230 1f232
   1f23b 1f23c 1f240 1f249 1f3fb 1f400 1f53e 1f546 1f650 1f680 1f700 1f774 1f780 1f7d5 1f800
   1f80c 1f810 1f848 1f850 1f85a 1f860 1f888 1f890 1f8ae 1f900 1f90c 1f93b 1f93c 1f946 1f947
   1fb00 1fc00 1fffe"

/-- The code points with the property Extender. -/
def extender : CodeSet := .ofText
  "b7 b8 2d0 2d2 640 641 7fa 7fb a71 a72 afb afc b55 b56 e46 e47 ec6 ec7 180a 180b 1843 1844
   1aa7 1aa8 1c36 1c37 1c7b 1c7c 3005 3006 3031 3036 309d 309f 30fc 30ff a015 a016 a60c a60d
   a9cf a9d0 a9e6 a9e7 aa70 aa71 aadd aade aaf3 aaf5 ff70 ff71 10781 10783 10d4e 10d4f
   10d6a 10d6b 10d6f 10d70 11237 11238 1135d 1135e 113d2 113d4 115c6 115c9 11a98 11a99
   16b42 16b44 16fe0 16fe2 16fe3 16fe4 1e13c 1e13e 1e5ef 1e5f0 1e944 1e947"

/-- The code points with the property Grapheme_Link. -/
def graphemeLink : CodeSet := .ofText
  "94d 94e 9cd 9ce a4d a4e acd ace b4d b4e bcd bce c4d c4e ccd cce d3b d3d d4d d4e dca dcb
   e3a e3b eba ebb f84 f85 1039 103b 1714 1716 1734 1735 17d2 17d3 1a60 1a61 1b44 1b45
   1baa 1bac 1bf2 1bf4 2d7f 2d80 a806 a807 a82c a82d a8c4 a8c5 a953 a954 a9c0 a9c1 aaf6 aaf7
   abed abee 10a3f 10a40 11046 11047 11070 11071 1107f 11080 110b9 110ba 11133 11135
   111c0 111c1 11235 11236 112ea 112eb 1134d 1134e 113ce 113d1 11442 11443 114c2 114c3
   115bf 115c0 1163f 11640 116b6 116b7 1172b 1172c 11839 1183a 1193d 1193f 119e0 119e1
   11a34 11a35 11a47 11a48 11a99 11a9a 11c3f 11c40 11d44 11d46 11d97 11d98 11f41 11f43
   1612f 16130"

/-- The code points with the property Hex_Digit. -/
def hexDigit : CodeSet := .ofText
  "30 3a 41 47 61 67 ff10 ff1a ff21 ff27 ff41 ff47"

/-- The code points with the property Hyphen. -/
def hyphen : CodeSet := .ofText
  "2d 2e ad ae 58a 58b 1806 1807 2010 2012 2e17 2e18 30fb 30fc fe63 fe64 ff0d ff0e ff65 ff66"

/-- The code points with the property IDS_Binary_Operator. -/
def idsBinaryOperator : CodeSet := .ofText
  "2ff0 2ff2 2ff4 2ffe 31ef 31f0"

/-- The code points with the property IDS_Trinary_Operator. -/
def idsTrinaryOperator : CodeSet := .ofText
  "2ff2 2ff4"

/-- The code points with the property IDS_Unary_Operator. -/
def idsUnaryOperator : CodeSet := .ofText
  "2ffe 3000"

/-- The code points with the property ID_Compat_Math_Continue. -/
def idCompatMathContinue : CodeSet := .ofText
  "b2 b4 b9 ba 2070 2071 2074 207f 2080 208f 2202 2203 2207 2208 221e 221f 1d6c1 1d6c2
   1d6db 1d6dc 1d6fb 1d6fc 1d715 1d716 1d735 1d736 1d74f 1d750 1d76f 1d770 1d789 1d78a
   1d7a9 1d7aa 1d7c3 1d7c4"

/-- The code points with the property ID_Compat_Math_Start. -/
def idCompatMathStart : CodeSet := .ofText
  "2202 2203 2207 2208 221e 221f 1d6c1 1d6c2 1d6db 1d6dc 1d6fb 1d6fc 1d715 1d716 1d735 1d736
   1d74f 1d750 1d76f 1d770 1d789 1d78a 1d7a9 1d7aa 1d7c3 1d7c4"

/-- The code points with the property Ideographic. -/
def ideographic : CodeSet := .ofText
  "3006 3008 3021 302a 3038 303b 3400 4dc0 4e00 a000 f900 fa6e fa70 fada 16fe4 16fe5
   17000 187f8 18800 18cd6 18cff 18d09 1b170 1b2fc 20000 2a6e0 2a700 2b73a 2b740 2b81e
   2b820 2cea2 2ceb0 2ebe1 2ebf0 2ee5e 2f800 2fa1e 30000 3134b 31350 323b0"

/-- The code points with the property Join_Control. -/
def joinControl : CodeSet := .ofText
  "200c 200e"

/-- The code points with the property Logical_Order_Exception. -/
def logicalOrderException : CodeSet := .ofText
  "e40 e45 ec0 ec5 19b5 19b8 19ba 19bb aab5 aab7 aab9 aaba aabb aabd"

/-- The code points with the property Modifier_Combining_Mark. -/
def modifierCombiningMark : CodeSet := .ofText
  "654 656 658 659 6dc 6dd 6e3 6e4 6e7 6e9 8ca 8cc 8cd 8d0 8d3 8d4 8f3 8f4"

/-- The code points with the property Noncharacter_Code_Point. -/
def noncharacterCodePoint : CodeSet := .ofText
  "fdd0 fdf0 fffe 10000 1fffe 20000 2fffe 30000 3fffe 40000 4fffe 50000 5fffe 60000
   6fffe 70000 7fffe 80000 8fffe 90000 9fffe a0000 afffe b0000 bfffe c0000 cfffe d0000
   dfffe e0000 efffe f0000 ffffe 100000 10fffe 110000"

/-- The code points with the property Other_Alphabetic. -/
def otherAlphabetic : CodeSet := .ofText
  "345 346 363 370 5b0 5be 5bf 5c0 5c1 5c3 5c4 5c6 5c7 5c8 610 61b 64b 658 659 660 670 671 6d6
   6dd 6e1 6e5 6e7 6e9 6ed 6ee 711 712 730 740 7a6 7b1 816 818 81b 824 825 828 829 82d 897 898
   8d4 8e0 8e3 8ea 8f0 904 93a 93c 93e 94d 94e 950 955 958 962 964 981 984 9be 9c5 9c7 9c9 9cb
   9cd 9d7 9d8 9e2 9e4 a01 a04 a3e a43 a47 a49 a4b a4d a51 a52 a70 a72 a75 a76 a81 a84 abe ac6
   ac7 aca acb acd ae2 ae4 afa afd b01 b04 b3e b45 b47 b49 b4b b4d b56 b58 b62 b64 b82 b83 bbe
   bc3 bc6 bc9 bca bcd bd7 bd8 c00 c05 c3e c45 c46 c49 c4a c4d c55 c57 c62 c64 c81 c84 cbe cc5
   cc6 cc9 cca ccd cd5 cd7 ce2 ce4 cf3 cf4 d00 d04 d3e d45 d46 d49 d4a d4d d57 d58 d62 d64 d81
   d84 dcf dd5 dd6 dd7 dd8 de0 df2 df4 e31 e32 e34 e3b e4d e4e eb1 eb2 eb4 eba ebb ebd ecd ece
   f71 f84 f8d f98 f99 fbd 102b 1037 1038 1039 103b 103f 1056 105a 105e 1061 1062 1065 1067
   106e 1071 1075 1082 108e 108f 1090 109a 109e 1712 1714 1732 1734 1752 1754 1772 1774 17b6
   17c9 1885 1887 18a9 18aa 1920 192c 1930 1939 1a17 1a1c 1a55 1a5f 1a61 1a75 1abf 1ac1 1acc
   1acf 1b00 1b05 1b35 1b44 1b80 1b83 1ba1 1baa 1bac 1bae 1be7 1bf2 1c24 1c37 1dd3 1df5 24b6
   24ea 2de0 2e00 a674 a67c a69e a6a0 a802 a803 a80b a80c a823 a828 a880 a882 a8b4 a8c4 a8c5
   a8c6 a8ff a900 a926 a92b a947 a953 a980 a984 a9b4 a9c0 a9e5 a9e6 aa29 aa37 aa43 aa44 aa4c
   aa4e aa7b aa7e aab0 aab1 aab2 aab5 aab7 aab9 aabe aabf aaeb aaf0 aaf5 aaf6 abe3 abeb fb1e
   fb1f 10376 1037b 10a01 10a04 10a05 10a07 10a0c 10a10 10d24 10d28 10d69 10d6a 10eab 10ead
   10efc 10efd 11000 11003 11038 11046 11073 11075 11080 11083 110b0 110b9 110c2 110c3 11100
   11103 11127 11133 11145 11147 11180 11183 111b3 111c0 111ce 111d0 1122c 11235 11237 11238
   1123e 1123f 11241 11242 112df 112e9 11300 11304 1133e 11345 11347 11349 1134b 1134d 11357
   11358 11362 11364 113b8 113c1 113c2 113c3 113c5 113c6 113c7 113cb 113cc 113ce 11435 11442
   11443 11446 114b0 114c2 115af 115b6 115b8 115bf 115dc 115de 11630 1163f 11640 11641 116ab
   116b6 1171d 1172b 1182c 11839 11930 11936 11937 11939 1193b 1193d 11940 11941 11942 11943
   119d1 119d8 119da 119e0 119e4 119e5 11a01 11a0b 11a35 11a3a 11a3b 11a3f 11a51 11a5c 11a8a
   11a98 11c2f 11c37 11c38 11c3f 11c92 11ca8 11ca9 11cb7 11d31 11d37 11d3a 11d3b 11d3c 11d3e
   11d3f 11d42 11d43 11d44 11d47 11d48 11d8a 11d8f 11d90 11d92 11d93 11d97 11ef3 11ef7 11f00
   11f02 11f03 11f04 11f34 11f3b 11f3e 11f41 1611e 1612f 16f4f 16f50 16f51 16f88 16f8f 16f93
   16ff0 16ff2 1bc9e 1bc9f 1e000 1e007 1e008 1e019 1e01b 1e022 1e023 1e025 1e026 1e02b 1e08f
   1e090 1e947 1e948 1f130 1f14a 1f150 1f16a 1f170 1f18a"

/-- The code points with the property Other_Default_Ignorable_Code_Point. -/
def otherDefaultIgnorableCodePoint : CodeSet := .ofText
  "34f 350 115f 1161 17b4 17b6 2065 2066 3164 3165 ffa0 ffa1 fff0 fff9 e0000 e0001 e0002 e0020
   e0080 e0100 e01f0 e1000"

/-- The code points with the property Other_Grapheme_Extend. -/
def otherGraphemeExtend : CodeSet := .ofText
  "9be 9bf 9d7 9d8 b3e b3f b57 b58 bbe bbf bd7 bd8 cc0 cc1 cc2 cc3 cc7 cc9 cca ccc cd5 cd7
   d3e d3f d57 d58 dcf dd0 ddf de0 1715 1716 1734 1735 1b35 1b36 1b3b 1b3c 1b3d 1b3e 1b43 1b45
   1baa 1bab 1bf2 1bf4 200c 200d 302e 3030 a953 a954 a9c0 a9c1 ff9e ffa0 111c0 111c1
   11235 11236 1133e 1133f 1134d 1134e 11357 11358 113b8 113b9 113c2 113c3 113c5 113c6
   113c7 113ca 113cf 113d0 114b0 114b1 114bd 114be 115af 115b0 116b6 116b7 11930 11931
   1193d 1193e 11f41 11f42 16ff0 16ff2 1d165 1d167 1d16d 1d173 e0020 e0080"

/-- The code points with the property Other_ID_Continue. -/
def otherIdContinue : CodeSet := .ofText
  "b7 b8 387 388 1369 1372 19da 19db 200c 200e 30fb 30fc ff65 ff66"

/-- The code points with the property Other_ID_Start. -/
def otherIdStart : CodeSet := .ofText
  "1885 1887 2118 2119 212e 212f 309b 309d"

/-- The code points with the property Other_Lowercase. -/
def otherLowercase : CodeSet := .ofText
  "aa ab ba bb 2b0 2b9 2c0 2c2 2e0 2e5 345 346 37a 37b 10fc 10fd 1d2c 1d6b 1d78 1d79 1d9b 1dc0
   2071 2072 207f 2080 2090 209d 2170 2180 24d0 24ea 2c7c 2c7e a69c a69e a770 a771 a7f2 a7f5
   a7f8 a7fa ab5c ab60 ab69 ab6a 10780 10781 10783 10786 10787 107b1 107b2 107bb 1e030 1e06e"

/-- The code points with the property Other_Math. -/
def otherMath : CodeSet := .ofText
  "5e 5f 3d0 3d3 3d5 3d6 3f0 3f2 3f4 3f6 2016 2017 2032 2035 2040 2041 2061 2065 207d 207f
   208d 208f 20d0 20dd 20e1 20e2 20e5 20e7 20eb 20f0 2102 2103 2107 2108 210a 2114 2115 2116
   2119 211e 2124 2125 2128 212a 212c 212e 212f 2132 2133 2139 213c 2140 2145 214a 2195 219a
   219c 21a0 21a1 21a3 21a4 21a6 21a7 21a8 21a9 21ae 21b0 21b2 21b6 21b8 21bc 21ce 21d0 21d2
   21d3 21d4 21d5 21dc 21dd 21de 21e4 21e6 2308 230c 23b4 23b6 23b7 23b8 23d0 23d1 23e2 23e3
   25a0 25a2 25ae 25b7 25bc 25c1 25c6 25c8 25ca 25cc 25cf 25d4 25e2 25e3 25e4 25e5 25e7 25ed
   2605 2607 2640 2641 2642 2643 2660 2664 266d 266f 27c5 27c7 27e6 27f0 2983 2999 29d8 29dc
   29fc 29fe fe61 fe62 fe63 fe64 fe68 fe69 ff3c ff3d ff3e ff3f 1d400 1d455 1d456 1d49d
   1d49e 1d4a0 1d4a2 1d4a3 1d4a5 1d4a7 1d4a9 1d4ad 1d4ae 1d4ba 1d4bb 1d4bc 1d4bd 1d4c4
   1d4c5 1d506 1d507 1d50b 1d50d 1d515 1d516 1d51d 1d51e 1d53a 1d53b 1d53f 1d540 1d545
   1d546 1d547 1d54a 1d551 1d552 1d6a6 1d6a8 1d6c1 1d6c2 1d6db 1d6dc 1d6fb 1d6fc 1d715
   1d716 1d735 1d736 1d74f 1d750 1d76f 1d770 1d789 1d78a 1d7a9 1d7aa 1d7c3 1d7c4 1d7cc
   1d7ce 1d800 1ee00 1ee04 1ee05 1ee20 1ee21 1ee23 1ee24 1ee25 1ee27 1ee28 1ee29 1ee33
   1ee34 1ee38 1ee39 1ee3a 1ee3b 1ee3c 1ee42 1ee43 1ee47 1ee48 1ee49 1ee4a 1ee4b 1ee4c
   1ee4d 1ee50 1ee51 1ee53 1ee54 1ee55 1ee57 1ee58 1ee59 1ee5a 1ee5b 1ee5c 1ee5d 1ee5e
   1ee5f 1ee60 1ee61 1ee63 1ee64 1ee65 1ee67 1ee6b 1ee6c 1ee73 1ee74 1ee78 1ee79 1ee7d
   1ee7e 1ee7f 1ee80 1ee8a 1ee8b 1ee9c 1eea1 1eea4 1eea5 1eeaa 1eeab 1eebc"

/-- The code points with the property Other_Uppercase. -/
def otherUppercase : CodeSet := .ofText
  "2160 2170 24b6 24d0 1f130 1f14a 1f150 1f16a 1f170 1f18a"

/-- The code points with the property Pattern_Syntax. -/
def patternSyntax : CodeSet := .ofText
  "21 30 3a 41 5b 5f 60 61 7b 7f a1 a8 a9 aa ab ad ae af b0 b2 b6 b7 bb bc bf c0 d7 d8 f7 f8
   2010 2028 2030 203f 2041 2054 2055 205f 2190 2460 2500 2776 2794 2c00 2e00 2e80 3001 3004
   3008 3021 3030 3031 fd3e fd40 fe45 fe47"

/-- The code points with the property Pattern_White_Space. -/
def patternWhiteSpace : CodeSet := .ofText
  "9 e 20 21 85 86 200e 2010 2028 202a"

/-- The code points with the property Prepended_Concatenation_Mark. -/
def prependedConcatenationMark : CodeSet := .ofText
  "600 606 6dd 6de 70f 710 890 892 8e2 8e3 110bd 110be 110cd 110ce"

/-- The code points with the property Quotation_Mark. -/
def quotationMark : CodeSet := .ofText
  "22 23 27 28 ab ac bb bc 2018 2020 2039 203b 2e42 2e43 300c 3010 301d 3020 fe41 fe45
   ff02 ff03 ff07 ff08 ff62 ff64"

/-- The code points with the property Radical. -/
def radical : CodeSet := .ofText
  "2e80 2e9a 2e9b 2ef4 2f00 2fd6"

/-- The code points with the property Regional_Indicator. -/
def regionalIndicator : CodeSet := .ofText
  "1f1e6 1f200"

/-- The code points with the property Sentence_Terminal. -/
def sentenceTerminal : CodeSet := .ofText
  "21 22 2e 2f 3f 40 589 58a 61d 620 6d4 6d5 700 703 7f9 7fa 837 838 839 83a 83d 83f 964 966
   104a 104c 1362 1363 1367 1369 166e 166f 1735 1737 17d4 17d6 1803 1804 1809 180a 1944 1946
   1aa8 1aac 1b4e 1b50 1b5a 1b5c 1b5e 1b60 1b7d 1b80 1c3b 1c3d 1c7e 1c80 2024 2025 203c 203e
   2047 204a 2cf9 2cfc 2e2e 2e2f 2e3c 2e3d 2e53 2e55 3002 3003 a4ff a500 a60e a610 a6f3 a6f4
   a6f7 a6f8 a876 a878 a8ce a8d0 a92f a930 a9c8 a9ca aa5d aa60 aaf0 aaf2 abeb abec fe12 fe13
   fe15 fe17 fe52 fe53 fe56 fe58 ff01 ff02 ff0e ff0f ff1f ff20 ff61 ff62 10a56 10a58
   10f55 10f5a 10f86 10f8a 11047 11049 110be 110c2 11141 11144 111c5 111c7 111cd 111ce
   111de 111e0 11238 1123a 1123b 1123d 112a9 112aa 113d4 113d6 1144b 1144d 115c2 115c4
   115c9 115d8 11641 11643 1173c 1173f 11944 11945 11946 11947 11a42 11a44 11a9b 11a9d
   11c41 11c43 11ef7 11ef9 11f43 11f45 16a6e 16a70 16af5 16af6 16b37 16b39 16b44 16b45
   16d6e 16d70 16e98 16e99 1bc9f 1bca0 1da88 1da89"

/-- The code points with the property Soft_Dotted. -/
def softDotted : CodeSet := .ofText
  "69 6b 12f 130 249 24a 268 269 29d 29e 2b2 2b3 3f3 3f4 456 457 458 459 1d62 1d63 1d96 1d97
   1da4 1da5 1da8 1da9 1e2d 1e2e 1ecb 1ecc 2071 2072 2148 214a 2c7c 2c7d 1d422 1d424
   1d456 1d458 1d48a 1d48c 1d4be 1d4c0 1d4f2 1d4f4 1d526 1d528 1d55a 1d55c 1d58e 1d590
   1d5c2 1d5c4 1d5f6 1d5f8 1d62a 1d62c 1d65e 1d660 1d692 1d694 1df1a 1df1b 1e04c 1e04e
   1e068 1e069"

/-- The code points with the property Terminal_Punctuation. -/
def terminalPunctuation : CodeSet := .ofText
  "21 22 2c 2d 2e 2f 3a 3c 3f 40 37e 37f 387 388 589 58a 5c3 5c4 60c 60d 61b 61c 61d 620
   6d4 6d5 700 70b 70c 70d 7f8 7fa 830 836 837 83f 85e 85f 964 966 e5a e5c f08 f09 f0d f13
   104a 104c 1361 1369 166e 166f 16eb 16ee 1735 1737 17d4 17d7 17da 17db 1802 1806 1808 180a
   1944 1946 1aa8 1aac 1b4e 1b50 1b5a 1b5c 1b5d 1b60 1b7d 1b80 1c3b 1c40 1c7e 1c80 2024 2025
   203c 203e 2047 204a 2cf9 2cfc 2e2e 2e2f 2e3c 2e3d 2e41 2e42 2e4c 2e4d 2e4e 2e50 2e53 2e55
   3001 3003 a4fe a500 a60d a610 a6f3 a6f8 a876 a878 a8ce a8d0 a92f a930 a9c7 a9ca aa5d aa60
   aadf aae0 aaf0 aaf2 abeb abec fe12 fe13 fe15 fe17 fe50 fe53 fe54 fe58 ff01 ff02 ff0c ff0d
   ff0e ff0f ff1a ff1c ff1f ff20 ff61 ff62 ff64 ff65 1039f 103a0 103d0 103d1 10857 10858
   1091f 10920 10a56 10a58 10af0 10af6 10b3a 10b40 10b99 10b9d 10f55 10f5a 10f86 10f8a
   11047 1104e 110be 110c2 11141 11144 111c5 111c7 111cd 111ce 111de 111e0 11238 1123d
   112a9 112aa 113d4 113d6 1144b 1144e 1145a 1145c 115c2 115c6 115c9 115d8 11641 11643
   1173c 1173f 11944 11945 11946 11947 11a42 11a44 11a9b 11a9d 11aa1 11aa3 11c41 11c44
   11c71 11c72 11ef7 11ef9 11f43 11f45 12470 12475 16a6e 16a70 16af5 16af6 16b37 16b3a
   16b44 16b45 16d6e 16d70 16e97 16e99 1bc9f 1bca0 1da87 1da8b"

/-- The code points with the property Unified_Ideograph. -/
def unifiedIdeograph : CodeSet := .ofText
  "3400 4dc0 4e00 a000 fa0e fa10 fa11 fa12 fa13 fa15 fa1f fa20 fa21 fa22 fa23 fa25 fa27 fa2a
   20000 2a6e0 2a700 2b73a 2b740 2b81e 2b820 2cea2 2ceb0 2ebe1 2ebf0 2ee5e 30000 3134b
   31350 323b0"

/-- The code points with the property Variation_Selector. -/
def variationSelector : CodeSet := .ofText
  "180b 180e 180f 1810 fe00 fe10 e0100 e01f0"

/-- The code points with the property White_Space. -/
def whiteSpace : CodeSet := .ofText
  "9 e 20 21 85 86 a0 a1 1680 1681 2000 200b 2028 202a 202f 2030 205f 2060 3000 3001"

/-- The listed properties by all their names. -/
def listedProperties : List (List String × CodeSet) :=
  [(["ASCII_Hex_Digit", "AHex"], asciiHexDigit),
    (["Bidi_Control", "Bidi_C"], bidiControl),
    (["Bidi_Mirrored", "Bidi_M"], bidiMirrored),
    (["Dash"], dash),
    (["Default_Ignorable_Code_Point", "DI"], defaultIgnorableCodePoint),
    (["Deprecated", "Dep"], deprecated),
    (["Diacritic", "Dia"], diacritic),
    (["Emoji"], emoji),
    (["Emoji_Component", "EComp"], emojiComponent),
    (["Emoji_Modifier", "EMod"], emojiModifier),
    (["Emoji_Modifier_Base", "EBase"], emojiModifierBase),
    (["Emoji_Presentation", "EPres"], emojiPresentation),
    (["Extended_Pictographic", "ExtPict"], extendedPictographic),
    (["Extender", "Ext"], extender),
    (["Grapheme_Link", "Gr_Link"], graphemeLink),
    (["Hex_Digit", "Hex"], hexDigit),
    (["Hyphen"], hyphen),
    (["IDS_Binary_Operator", "IDSB"], idsBinaryOperator),
    (["IDS_Trinary_Operator", "IDST"], idsTrinaryOperator),
    (["IDS_Unary_Operator", "IDSU"], idsUnaryOperator),
    (["ID_Compat_Math_Continue"], idCompatMathContinue),
    (["ID_Compat_Math_Start"], idCompatMathStart),
    (["Ideographic", "Ideo"], ideographic),
    (["Join_Control", "Join_C"], joinControl),
    (["Logical_Order_Exception", "LOE"], logicalOrderException),
    (["Modifier_Combining_Mark", "MCM"], modifierCombiningMark),
    (["Noncharacter_Code_Point", "NChar"], noncharacterCodePoint),
    (["Other_Alphabetic", "OAlpha"], otherAlphabetic),
    (["Other_Default_Ignorable_Code_Point", "ODI"], otherDefaultIgnorableCodePoint),
    (["Other_Grapheme_Extend", "OGr_Ext"], otherGraphemeExtend),
    (["Other_ID_Continue", "OIDC"], otherIdContinue),
    (["Other_ID_Start", "OIDS"], otherIdStart),
    (["Other_Lowercase", "OLower"], otherLowercase),
    (["Other_Math", "OMath"], otherMath),
    (["Other_Uppercase", "OUpper"], otherUppercase),
    (["Pattern_Syntax", "Pat_Syn"], patternSyntax),
    (["Pattern_White_Space", "Pat_WS"], patternWhiteSpace),
    (["Prepended_Concatenation_Mark", "PCM"], prependedConcatenationMark),
    (["Quotation_Mark", "QMark"], quotationMark),
    (["Radical"], radical),
    (["Regional_Indicator", "RI"], regionalIndicator),
    (["Sentence_Terminal", "STerm"], sentenceTerminal),
    (["Soft_Dotted", "SD"], softDotted),
    (["Terminal_Punctuation", "Term"], terminalPunctuation),
    (["Unified_Ideograph", "UIdeo"], unifiedIdeograph),
    (["Variation_Selector", "VS"], variationSelector),
    (["White_Space", "WSpace", "Space"], whiteSpace)]

end Unicode

end RecordFilter
