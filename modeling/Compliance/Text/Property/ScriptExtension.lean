import Compliance.Text.CodeSet

/-!
# Shared characters of scripts

Some characters are used with several scripts.  For each script the table gives
those in which the characters used with it differ from its own ones.
-/

namespace Compliance.Property

def scriptExtensionRows : List (List String × List String) := [
  (["Adlm"], ["1567 1 32 1 6670 1 3569 1"]),
  (["Arab"], ["1548 1 14 1 3 1 32 1 10 11 26 1 6622 1 3569 1 52988 2 1440 28"]),
  (["Armn"], ["776 1"]),
  (["Avst"], ["183 1 11640 2"]),
  (["Beng"], ["700 1 1684 2 17 2 4970 1 1 1 2 2 1 1 8 1 8 1 2 1 4 1 2 3 35833 1"]),
  (["Bopo"], ["711 1 1 3 13 1 11559 3 4 10 1 13 10 4 2 1 6 1 195 1 52553 2 282 5"]),
  (["Bugi"], ["43471 1"]),
  (["Buhd"], ["5941 2"]),
  (["Cari"], ["183 1 8098 1 2 1 3539 1"]),
  (["Aghb"], ["772 1 44 1 44 1"]),
  (["Cakm"], ["2534 10 1616 10"]),
  (["Cher"], ["768 3 1 1 6 2 22 2 11 2"]),
  (["Zyyy"],
    ["183 1 516 1 10 1 1 3 1 1 9 1 1 1 154 1 663 1 14 1 3 1 32 1 803 2 1941 1 1519 3 71 2",
     "203 2 1 1 1229 1 13 1 7 4 1 6 1 3 2 1 820 1 31 1 10 1 2 1 3513 1 24 2 10 1 4 1 1 1",
     "428 16 1 3 2 1 1 10 1 13 16 6 1 1 4 4 91 2 3 1 90 2 147 16 32 38 9 1 48 40 56 49 15 12",
     "51 1 88 25 10 5 96 31 29441 8 296 10 244 1 160 1 21358 2 261 2 282 5 10 1 45 2 352 3",
     "4 45 3 9 417 27 47524 4 5820 18 7902 2"]),
  (["Copt"], ["183 1 584 1 3 2 1 1 108 2 10913 1 54472 28"]),
  (["Cprt"], ["65792 3 4 45 3 9"]),
  (["Cpmn"], ["65792 2"]),
  (["Cyrl"], ["700 1 67 3 1 1 1 1 1 1 2 1 5 1 371 2 6513 1 4170 1"]),
  (["Deva"], ["700 1 1684 2 17 2 4970 39 1 2 1014 1 34623 10"]),
  (["Dogr"], ["2404 12 40640 10"]),
  (["Dupl"], ["183 1 591 2 1 1 24 2 11031 1 101987 4"]),
  (["Elba"], ["183 1 589 1"]),
  (["Ethi"], ["782 1"]),
  (["Gara"], ["1548 1 14 1 3 1"]),
  (["Geor"], ["183 1 1233 1 2929 1 3934 1 3542 1"]),
  (["Glag"], ["183 1 587 1 1 1 382 1 2 1 257 1 2929 1 3934 1 3560 1 30763 1"]),
  (["Goth"], ["183 1 588 2 2 1 40 1"]),
  (["Gran"], ["2385 2 17 2 640 14 4316 1 1 2 30 3 3 2 1014 1 62026 1 3220 2 1 1"]),
  (["Grek"], ["183 1 584 2 2 1 1 1 1 1 10 1 46 1 2 1 46 1 6731 2 667 1"]),
  (["Gujr"], ["2385 2 17 2 40650 10"]),
  (["Gong"], ["183 1 2220 2"]),
  (["Guru"], ["2385 2 17 2 40650 10"]),
  (["Gukh"], ["2405 1"]),
  (["Hani"],
    ["183 1 12088 16 1 3 2 1 1 10 1 13 10 4 2 1 6 1 4 4 187 1 148 16 32 38 9 1 48 40 56 49",
     "15 12 51 1 88 25 10 5 96 31 29441 8 22333 2 282 5 54266 18 7902 2"]),
  (["Hang"], ["12289 3 4 10 1 13 16 1 6 1 195 1 52553 2 282 5"]),
  (["Rohg"], ["1548 1 14 1 3 1 32 1 147 1"]),
  (["Hano"], ["5941 2"]),
  (["Hebr"], ["775 2"]),
  (["Hira"], ["12289 3 4 10 1 13 16 6 1 1 4 2 91 4 3 1 90 2 52552 2 282 5 10 1 45 2"]),
  (["Zinh"],
    ["768 15 1 2 1 1 15 3 7 2 1 2 16 1 2 1 18 1 5 1 4 13 277 2 452 11 26 1 736 2 4989 3 1 13",
     "1 7 4 1 6 1 3 2 198 2 54 1 1 1 757 1 3897 4 107 2 53829 1 4186 1"]),
  (["Java"], ["43471 1"]),
  (["Kthi"], ["2406 10 9409 1 31230 10"]),
  (["Knda"], ["2385 2 17 2 4970 1 1 2 6 1 23 1 1 1 35643 6"]),
  (["Kana"], ["773 1 29 1 11485 3 4 10 1 13 16 6 1 1 4 2 91 4 3 1 90 2 52552 2 282 5 10 1 45 2"]),
  (["Kali"], ["43310 1"]),
  (["Khoj"], ["2790 10 40256 10"]),
  (["Sind"], ["2404 2 40650 10"]),
  (["Latn"],
    ["183 1 516 1 10 1 1 3 1 1 9 1 1 1 38 15 1 2 1 1 15 3 7 2 1 2 38 1 5 1 4 13 277 2 1226 2",
     "1960 1 3324 1 566 1 192 1 3366 1 30952 8 550 1"]),
  (["Limb"], ["2405 1"]),
  (["Lina"], ["65799 45"]),
  (["Linb"], ["65792 3 4 45 3 9"]),
  (["Lisu"], ["700 1 16 1 11580 2"]),
  (["Lyci"], ["8282 1"]),
  (["Lydi"], ["183 1 11641 1"]),
  (["Mahj"], ["183 1 2220 12 40640 10"]),
  (["Mlym"], ["2385 2 17 2 4980 1 23 1 35645 3"]),
  (["Mand"], ["1600 1"]),
  (["Mani"], ["1600 1"]),
  (["Gonm"], ["2404 2"]),
  (["Mero"], ["8285 1"]),
  (["Modi"], ["43056 10"]),
  (["Mong"], ["6146 2 1 1 2089 1 4049 2 5 4"]),
  (["Mult"], ["2662 10"]),
  (["Mymr"], ["43310 1"]),
  (["Nand"], ["2385 1 18 2 896 10 4089 1 8 1 7 1 35637 6"]),
  (["Newa"], ["2385 2 4994 1 1 2 9 1 6 1 1 1 1 1"]),
  (["Nkoo"], ["1548 1 14 1 3 1 63262 2"]),
  (["Onao"], ["2404 2"]),
  (["Hung"], ["8282 1 2 1 3539 1 15 1"]),
  (["Perm"], ["183 1 584 1 5 3 10 1 367 1"]),
  (["Orkh"], ["8282 1 3541 1"]),
  (["Ougr"], ["1600 1 66737 1"]),
  (["Orya"], ["2385 2 17 2 4980 1 23 1"]),
  (["Osge"], ["769 1 2 1 6 1 76 1"]),
  (["Phag"], ["6146 2 1 1 2089 1 4050 1"]),
  (["Phlp"], ["1600 1"]),
  (["Runr"], ["5867 3"]),
  (["Samr"], ["11825 1"]),
  (["Shrd"], ["2385 1 4997 1 1 1 2 2 2 1 9 1 2 1 35650 6 2 1"]),
  (["Shaw"], ["183 1"]),
  (["Sinh"], ["2404 2 5004 1"]),
  (["Sogd"], ["1600 1"]),
  (["Sunu"], ["768 2 1 1 9 1 2 1 28 1 3 1"]),
  (["Sylo"], ["2404 2 128 10"]),
  (["Syrc"], ["771 2 2 2 1 1 24 3 7 2 1 2 730 1 14 2 2 1 32 1 10 11 26 1 6023 1 1 1"]),
  (["Tglg"], ["5941 2"]),
  (["Tagb"], ["5941 2"]),
  (["Tale"], ["768 2 5 2 3 1 3379 10"]),
  (["Takr"], ["2404 2 40650 10"]),
  (["Taml"], ["2385 2 17 2 4980 1 35864 1 27149 1 1 1 55 2"]),
  (["Tang"], ["12272 16 495 1"]),
  (["Telu"], ["2385 2 17 2 4975 2 1 1 1 1 23 1"]),
  (["Thaa"], ["1548 1 14 2 2 1 64 10 63368 1 10 1"]),
  (["Thai"], ["700 1 26 1 43 1 45 1"]),
  (["Tibt"], ["12296 4"]),
  (["Tfng"], ["770 1 1 1 1 4 25 1"]),
  (["Tirh"], ["2385 2 17 2 4975 1 12 1 15 1 35645 10"]),
  (["Todr"], ["769 1 2 1 2 1 9 1 1 1 74 1"]),
  (["Toto"], ["700 1"]),
  (["Tutg"], ["3302 10 4098 1 1 1 35643 6 187 1"]),
  (["Yezi"], ["1548 1 14 1 3 1 64 10"]),
  (["Yiii"], ["12289 2 5 10 2 8 223 1 52837 5"])]

end Compliance.Property
