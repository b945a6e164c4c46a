import Carrier.Text.Unicode.Table

/-!
# Joiners between letters

In a domain name a zero-width joiner may stand after a virama, and a zero-width non-joiner also
between letters that join towards each other.

- `Joining.isMark`: marks, with which no label begins.
- `Joining.permitted`: whether the joiners of a label stand where they may.
-/

namespace Carrier

namespace Text

namespace Joining

/-- Characters of general category M. -/
def marks : Table := Table.read
  ["300 36f,483 489,591 5bd,5bf,5c1 5c2,5c4 5c5,5c7,610 61a,64b 65f,670,6d6 6dc,6df 6e4,6e7 6e8,",
   "6ea 6ed,711,730 74a,7a6 7b0,7eb 7f3,7fd,816 819,81b 823,825 827,829 82d,859 85b,897 89f,",
   "8ca 8e1,8e3 903,93a 93c,93e 94f,951 957,962 963,981 983,9bc,9be 9c4,9c7 9c8,9cb 9cd,9d7,",
   "9e2 9e3,9fe,a01 a03,a3c,a3e a42,a47 a48,a4b a4d,a51,a70 a71,a75,a81 a83,abc,abe ac5,ac7 ac9,",
   "acb acd,ae2 ae3,afa aff,b01 b03,b3c,b3e b44,b47 b48,b4b b4d,b55 b57,b62 b63,b82,bbe bc2,",
   "bc6 bc8,bca bcd,bd7,c00 c04,c3c,c3e c44,c46 c48,c4a c4d,c55 c56,c62 c63,c81 c83,cbc,cbe cc4,",
   "cc6 cc8,cca ccd,cd5 cd6,ce2 ce3,cf3,d00 d03,d3b d3c,d3e d44,d46 d48,d4a d4d,d57,d62 d63,",
   "d81 d83,dca,dcf dd4,dd6,dd8 ddf,df2 df3,e31,e34 e3a,e47 e4e,eb1,eb4 ebc,ec8 ece,f18 f19,f35,",
   "f37,f39,f3e f3f,f71 f84,f86 f87,f8d f97,f99 fbc,fc6,102b 103e,1056 1059,105e 1060,1062 1064,",
   "1067 106d,1071 1074,1082 108d,108f,109a 109d,135d 135f,1712 1715,1732 1734,1752 1753,",
   "1772 1773,17b4 17d3,17dd,180b 180d,180f,1885 1886,18a9,1920 192b,1930 193b,1a17 1a1b,",
   "1a55 1a5e,1a60 1a7c,1a7f,1ab0 1add,1ae0 1aeb,1b00 1b04,1b34 1b44,1b6b 1b73,1b80 1b82,",
   "1ba1 1bad,1be6 1bf3,1c24 1c37,1cd0 1cd2,1cd4 1ce8,1ced,1cf4,1cf7 1cf9,1dc0 1dff,20d0 20f0,",
   "2cef 2cf1,2d7f,2de0 2dff,302a 302f,3099 309a,a66f a672,a674 a67d,a69e a69f,a6f0 a6f1,a802,",
   "a806,a80b,a823 a827,a82c,a880 a881,a8b4 a8c5,a8e0 a8f1,a8ff,a926 a92d,a947 a953,a980 a983,",
   "a9b3 a9c0,a9e5,aa29 aa36,aa43,aa4c aa4d,aa7b aa7d,aab0,aab2 aab4,aab7 aab8,aabe aabf,aac1,",
   "aaeb aaef,aaf5 aaf6,abe3 abea,abec abed,fb1e,fe00 fe0f,fe20 fe2f,101fd,102e0,10376 1037a,",
   "10a01 10a03,10a05 10a06,10a0c 10a0f,10a38 10a3a,10a3f,10ae5 10ae6,10d24 10d27,10d69 10d6d,",
   "10eab 10eac,10efa 10eff,10f46 10f50,10f82 10f85,11000 11002,11038 11046,11070,11073 11074,",
   "1107f 11082,110b0 110ba,110c2,11100 11102,11127 11134,11145 11146,11173,11180 11182,",
   "111b3 111c0,111c9 111cc,111ce 111cf,1122c 11237,1123e,11241,112df 112ea,11300 11303,",
   "1133b 1133c,1133e 11344,11347 11348,1134b 1134d,11357,11362 11363,11366 1136c,11370 11374,",
   "113b8 113c0,113c2,113c5,113c7 113ca,113cc 113d0,113d2,113e1 113e2,11435 11446,1145e,",
   "114b0 114c3,115af 115b5,115b8 115c0,115dc 115dd,11630 11640,116ab 116b7,1171d 1172b,",
   "1182c 1183a,11930 11935,11937 11938,1193b 1193e,11940,11942 11943,119d1 119d7,119da 119e0,",
   "119e4,11a01 11a0a,11a33 11a39,11a3b 11a3e,11a47,11a51 11a5b,11a8a 11a99,11b60 11b67,",
   "11c2f 11c36,11c38 11c3f,11c92 11ca7,11ca9 11cb6,11d31 11d36,11d3a,11d3c 11d3d,11d3f 11d45,",
   "11d47,11d8a 11d8e,11d90 11d91,11d93 11d97,11ef3 11ef6,11f00 11f01,11f03,11f34 11f3a,",
   "11f3e 11f42,11f5a,13440,13447 13455,1611e 1612f,16af0 16af4,16b30 16b36,16f4f,16f51 16f87,",
   "16f8f 16f92,16fe4,16ff0 16ff1,1bc9d 1bc9e,1cf00 1cf2d,1cf30 1cf46,1d165 1d169,1d16d 1d172,",
   "1d17b 1d182,1d185 1d18b,1d1aa 1d1ad,1d242 1d244,1da00 1da36,1da3b 1da6c,1da75,1da84,",
   "1da9b 1da9f,1daa1 1daaf,1e000 1e006,1e008 1e018,1e01b 1e021,1e023 1e024,1e026 1e02a,1e08f,",
   "1e130 1e136,1e2ae,1e2ec 1e2ef,1e4ec 1e4ef,1e5ee 1e5ef,1e6e3,1e6e6,1e6ee 1e6ef,1e6f5,",
   "1e8d0 1e8d6,1e944 1e94a,e0100 e01ef,"]

/-- Where the kinds of joining begin: 0 none, 1 left, 2 right, 3 both, 4 transparent, 5 causing. -/
def kinds : Table := Table.read
  ["ad 4,ae 0,300 4,370 0,483 4,48a 0,591 4,5be 0,5bf 4,5c0 0,5c1 4,5c3 0,5c4 4,5c6 0,5c7 4,5c8 0,",
   "610 4,61b 0,61c 4,61d 0,620 3,621 0,622 2,626 3,627 2,628 3,629 2,62a 3,62f 2,633 3,640 5,",
   "641 3,648 2,649 3,64b 4,660 0,66e 3,670 4,671 2,674 0,675 2,678 3,688 2,69a 3,6c0 2,6c1 3,",
   "6c3 2,6cc 3,6cd 2,6ce 3,6cf 2,6d0 3,6d2 2,6d4 0,6d5 2,6d6 4,6dd 0,6df 4,6e5 0,6e7 4,6e9 0,",
   "6ea 4,6ee 2,6f0 0,6fa 3,6fd 0,6ff 3,700 0,70f 4,710 2,711 4,712 3,715 2,71a 3,71e 2,71f 3,",
   "728 2,729 3,72a 2,72b 3,72c 2,72d 3,72f 2,730 4,74b 0,74d 2,74e 3,759 2,75c 3,76b 2,76d 3,",
   "771 2,772 3,773 2,775 3,778 2,77a 3,780 0,7a6 4,7b1 0,7ca 3,7eb 4,7f4 0,7fa 5,7fb 0,7fd 4,",
   "7fe 0,816 4,81a 0,81b 4,824 0,825 4,828 0,829 4,82e 0,840 2,841 3,846 2,848 3,849 2,84a 3,",
   "854 2,855 3,856 2,859 4,85c 0,860 3,861 0,862 3,866 0,867 2,868 3,869 2,86b 0,870 2,883 5,",
   "886 3,887 0,889 3,88e 2,88f 0,898 4,8a0 3,8aa 2,8ad 0,8ae 2,8af 3,8b1 2,8b3 3,8b9 2,8ba 3,",
   "8c9 0,8ca 4,8e2 0,8e3 4,903 0,93a 4,93b 0,93c 4,93d 0,941 4,949 0,94d 4,94e 0,951 4,958 0,",
   "962 4,964 0,981 4,982 0,9bc 4,9bd 0,9c1 4,9c5 0,9cd 4,9ce 0,9e2 4,9e4 0,9fe 4,9ff 0,a01 4,",
   "a03 0,a3c 4,a3d 0,a41 4,a43 0,a47 4,a49 0,a4b 4,a4e 0,a51 4,a52 0,a70 4,a72 0,a75 4,a76 0,",
   "a81 4,a83 0,abc 4,abd 0,ac1 4,ac6 0,ac7 4,ac9 0,acd 4,ace 0,ae2 4,ae4 0,afa 4,b00 0,b01 4,",
   "b02 0,b3c 4,b3d 0,b3f 4,b40 0,b41 4,b45 0,b4d 4,b4e 0,b55 4,b57 0,b62 4,b64 0,b82 4,b83 0,",
   "bc0 4,bc1 0,bcd 4,bce 0,c00 4,c01 0,c04 4,c05 0,c3c 4,c3d 0,c3e 4,c41 0,c46 4,c49 0,c4a 4,",
   "c4e 0,c55 4,c57 0,c62 4,c64 0,c81 4,c82 0,cbc 4,cbd 0,cbf 4,cc0 0,cc6 4,cc7 0,ccc 4,cce 0,",
   "ce2 4,ce4 0,d00 4,d02 0,d3b 4,d3d 0,d41 4,d45 0,d4d 4,d4e 0,d62 4,d64 0,d81 4,d82 0,dca 4,",
   "dcb 0,dd2 4,dd5 0,dd6 4,dd7 0,e31 4,e32 0,e34 4,e3b 0,e47 4,e4f 0,eb1 4,eb2 0,eb4 4,ebd 0,",
   "ec8 4,ecf 0,f18 4,f1a 0,f35 4,f36 0,f37 4,f38 0,f39 4,f3a 0,f71 4,f7f 0,f80 4,f85 0,f86 4,",
   "f88 0,f8d 4,f98 0,f99 4,fbd 0,fc6 4,fc7 0,102d 4,1031 0,1032 4,1038 0,1039 4,103b 0,103d 4,",
   "103f 0,1058 4,105a 0,105e 4,1061 0,1071 4,1075 0,1082 4,1083 0,1085 4,1087 0,108d 4,108e 0,",
   "109d 4,109e 0,135d 4,1360 0,1712 4,1715 0,1732 4,1734 0,1752 4,1754 0,1772 4,1774 0,17b4 4,",
   "17b6 0,17b7 4,17be 0,17c6 4,17c7 0,17c9 4,17d4 0,17dd 4,17de 0,1807 3,1808 0,180a 5,180b 4,",
   "180e 0,180f 4,1810 0,1820 3,1879 0,1885 4,1887 3,18a9 4,18aa 3,18ab 0,1920 4,1923 0,1927 4,",
   "1929 0,1932 4,1933 0,1939 4,193c 0,1a17 4,1a19 0,1a1b 4,1a1c 0,1a56 4,1a57 0,1a58 4,1a5f 0,",
   "1a60 4,1a61 0,1a62 4,1a63 0,1a65 4,1a6d 0,1a73 4,1a7d 0,1a7f 4,1a80 0,1ab0 4,1acf 0,1b00 4,",
   "1b04 0,1b34 4,1b35 0,1b36 4,1b3b 0,1b3c 4,1b3d 0,1b42 4,1b43 0,1b6b 4,1b74 0,1b80 4,1b82 0,",
   "1ba2 4,1ba6 0,1ba8 4,1baa 0,1bab 4,1bae 0,1be6 4,1be7 0,1be8 4,1bea 0,1bed 4,1bee 0,1bef 4,",
   "1bf2 0,1c2c 4,1c34 0,1c36 4,1c38 0,1cd0 4,1cd3 0,1cd4 4,1ce1 0,1ce2 4,1ce9 0,1ced 4,1cee 0,",
   "1cf4 4,1cf5 0,1cf8 4,1cfa 0,1dc0 4,1e00 0,200b 4,200c 0,200d 5,200e 4,2010 0,202a 4,202f 0,",
   "2060 4,2065 0,206a 4,2070 0,20d0 4,20f1 0,2cef 4,2cf2 0,2d7f 4,2d80 0,2de0 4,2e00 0,302a 4,",
   "302e 0,3099 4,309b 0,a66f 4,a673 0,a674 4,a67e 0,a69e 4,a6a0 0,a6f0 4,a6f2 0,a802 4,a803 0,",
   "a806 4,a807 0,a80b 4,a80c 0,a825 4,a827 0,a82c 4,a82d 0,a840 3,a872 1,a873 0,a8c4 4,a8c6 0,",
   "a8e0 4,a8f2 0,a8ff 4,a900 0,a926 4,a92e 0,a947 4,a952 0,a980 4,a983 0,a9b3 4,a9b4 0,a9b6 4,",
   "a9ba 0,a9bc 4,a9be 0,a9e5 4,a9e6 0,aa29 4,aa2f 0,aa31 4,aa33 0,aa35 4,aa37 0,aa43 4,aa44 0,",
   "aa4c 4,aa4d 0,aa7c 4,aa7d 0,aab0 4,aab1 0,aab2 4,aab5 0,aab7 4,aab9 0,aabe 4,aac0 0,aac1 4,",
   "aac2 0,aaec 4,aaee 0,aaf6 4,aaf7 0,abe5 4,abe6 0,abe8 4,abe9 0,abed 4,abee 0,fb1e 4,fb1f 0,",
   "fe00 4,fe10 0,fe20 4,fe30 0,feff 4,ff00 0,fff9 4,fffc 0,101fd 4,101fe 0,102e0 4,102e1 0,",
   "10376 4,1037b 0,10a01 4,10a04 0,10a05 4,10a07 0,10a0c 4,10a10 0,10a38 4,10a3b 0,10a3f 4,",
   "10a40 0,10ac0 3,10ac5 2,10ac6 0,10ac7 2,10ac8 0,10ac9 2,10acb 0,10acd 1,10ace 2,10ad3 3,",
   "10ad7 1,10ad8 3,10add 2,10ade 3,10ae1 2,10ae2 0,10ae4 2,10ae5 4,10ae7 0,10aeb 3,10aef 2,",
   "10af0 0,10b80 3,10b81 2,10b82 3,10b83 2,10b86 3,10b89 2,10b8a 3,10b8c 2,10b8d 3,10b8e 2,",
   "10b90 3,10b91 2,10b92 0,10ba9 2,10bad 3,10baf 0,10d00 1,10d01 3,10d22 2,10d23 3,10d24 4,",
   "10d28 0,10eab 4,10ead 0,10efd 4,10f00 0,10f30 3,10f33 2,10f34 3,10f45 0,10f46 4,10f51 3,",
   "10f54 2,10f55 0,10f70 3,10f74 2,10f76 3,10f82 4,10f86 0,10fb0 3,10fb1 0,10fb2 3,10fb4 2,",
   "10fb7 0,10fb8 3,10fb9 2,10fbb 3,10fbd 2,10fbe 3,10fc0 0,10fc1 3,10fc2 2,10fc4 3,10fc5 0,",
   "10fc9 2,10fca 3,10fcb 1,10fcc 0,11001 4,11002 0,11038 4,11047 0,11070 4,11071 0,11073 4,",
   "11075 0,1107f 4,11082 0,110b3 4,110b7 0,110b9 4,110bb 0,110c2 4,110c3 0,11100 4,11103 0,",
   "11127 4,1112c 0,1112d 4,11135 0,11173 4,11174 0,11180 4,11182 0,111b6 4,111bf 0,111c9 4,",
   "111cd 0,111cf 4,111d0 0,1122f 4,11232 0,11234 4,11235 0,11236 4,11238 0,1123e 4,1123f 0,",
   "11241 4,11242 0,112df 4,112e0 0,112e3 4,112eb 0,11300 4,11302 0,1133b 4,1133d 0,11340 4,",
   "11341 0,11366 4,1136d 0,11370 4,11375 0,11438 4,11440 0,11442 4,11445 0,11446 4,11447 0,",
   "1145e 4,1145f 0,114b3 4,114b9 0,114ba 4,114bb 0,114bf 4,114c1 0,114c2 4,114c4 0,115b2 4,",
   "115b6 0,115bc 4,115be 0,115bf 4,115c1 0,115dc 4,115de 0,11633 4,1163b 0,1163d 4,1163e 0,",
   "1163f 4,11641 0,116ab 4,116ac 0,116ad 4,116ae 0,116b0 4,116b6 0,116b7 4,116b8 0,1171d 4,",
   "11720 0,11722 4,11726 0,11727 4,1172c 0,1182f 4,11838 0,11839 4,1183b 0,1193b 4,1193d 0,",
   "1193e 4,1193f 0,11943 4,11944 0,119d4 4,119d8 0,119da 4,119dc 0,119e0 4,119e1 0,11a01 4,",
   "11a0b 0,11a33 4,11a39 0,11a3b 4,11a3f 0,11a47 4,11a48 0,11a51 4,11a57 0,11a59 4,11a5c 0,",
   "11a8a 4,11a97 0,11a98 4,11a9a 0,11c30 4,11c37 0,11c38 4,11c3e 0,11c3f 4,11c40 0,11c92 4,",
   "11ca8 0,11caa 4,11cb1 0,11cb2 4,11cb4 0,11cb5 4,11cb7 0,11d31 4,11d37 0,11d3a 4,11d3b 0,",
   "11d3c 4,11d3e 0,11d3f 4,11d46 0,11d47 4,11d48 0,11d90 4,11d92 0,11d95 4,11d96 0,11d97 4,",
   "11d98 0,11ef3 4,11ef5 0,11f00 4,11f02 0,11f36 4,11f3b 0,11f40 4,11f41 0,11f42 4,11f43 0,",
   "13430 4,13441 0,13447 4,13456 0,16af0 4,16af5 0,16b30 4,16b37 0,16f4f 4,16f50 0,16f8f 4,",
   "16f93 0,16fe4 4,16fe5 0,1bc9d 4,1bc9f 0,1bca0 4,1bca4 0,1cf00 4,1cf2e 0,1cf30 4,1cf47 0,",
   "1d167 4,1d16a 0,1d173 4,1d183 0,1d185 4,1d18c 0,1d1aa 4,1d1ae 0,1d242 4,1d245 0,1da00 4,",
   "1da37 0,1da3b 4,1da6d 0,1da75 4,1da76 0,1da84 4,1da85 0,1da9b 4,1daa0 0,1daa1 4,1dab0 0,",
   "1e000 4,1e007 0,1e008 4,1e019 0,1e01b 4,1e022 0,1e023 4,1e025 0,1e026 4,1e02b 0,1e08f 4,",
   "1e090 0,1e130 4,1e137 0,1e2ae 4,1e2af 0,1e2ec 4,1e2f0 0,1e4ec 4,1e4f0 0,1e8d0 4,1e8d7 0,",
   "1e900 3,1e944 4,1e94c 0,e0001 4,e0002 0,e0020 4,e0080 0,e0100 4,e01f0 0,"]

/-- Characters that suppress an inherent vowel. -/
def viramas : Table := Table.read
  ["94d,9cd,a4d,acd,b4d,bcd,c4d,ccd,d3b d3c,d4d,dca,e3a,eba,f84,1039 103a,1714 1715,1734,17d2,",
   "1a60,1b44,1baa 1bab,1bf2 1bf3,2d7f,a806,a82c,a8c4,a953,a9c0,aaf6,abed,10a3f,11046,11070,1107f,",
   "110b9,11133 11134,111c0,11235,112ea,1134d,11442,114c2,115bf,1163f,116b6,1172b,11839,",
   "1193d 1193e,119e0,11a34,11a47,11a99,11c3f,11d44 11d45,11d97,11f41 11f42,"]

/-- Whether a character is a mark. -/
def isMark (c : Char) : Bool := marks.holds c.toNat

/-- Whether the characters before a non-joiner, the nearest first, join towards it. -/
def joinsAfter : List Char → Bool
  | [] => false
  | c :: cs =>
    match kinds.classOf c.toNat with
    | 4 => joinsAfter cs
    | 1 | 3 => true
    | _ => false

/-- Whether the characters after a non-joiner join towards it. -/
def joinsBefore : List Char → Bool
  | [] => false
  | c :: cs =>
    match kinds.classOf c.toNat with
    | 4 => joinsBefore cs
    | 2 | 3 => true
    | _ => false

/-- Whether the joiners of a label stand where they may; `before` is what precedes them, the
nearest first. -/
def permittedAfter (before : List Char) : List Char → Bool
  | [] => true
  | c :: cs =>
    let afterVirama := match before with
      | [] => false
      | d :: _ => viramas.holds d.toNat
    let ok :=
      if c.toNat = 0x200C then afterVirama || (joinsAfter before && joinsBefore cs)
      else if c.toNat = 0x200D then afterVirama
      else true
    ok && permittedAfter (c :: before) cs

/-- Whether the joiners of a label stand where they may. -/
def permitted (label : List Char) : Bool := permittedAfter [] label

end Joining

end Text

end Carrier
